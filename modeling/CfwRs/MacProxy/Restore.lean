import CfwRs.MacProxy.Owned

namespace CfwRs.MacProxy

open Lib Lib.Checked

section Plans

variable {env : Environment} {records : String → Option (Option Configuration)}
  {plan plan' : Plan} {service : SystemProxyServiceOwnership}
  {services : List SystemProxyServiceOwnership}

def Planned (records : String → Option (Option Configuration)) (plan : Plan)
    (service : SystemProxyServiceOwnership) : Prop :=
  match records service.serviceID with
  | some (some c) => ∃ r, restoration service c = .ok r ∧
      plan.services service.serviceID = some (some r.configuration) ∧
      (r.changed = true → plan.changed = true) ∧ r.conflicts ⊆ plan.conflicts
  | record => plan.services service.serviceID = record ∧
      missing service (if record = none then .serviceMissing else .proxyProtocolMissing) ⊆
        plan.conflicts

structure Proceeds (plan plan' : Plan) (written : List String) : Prop where
  services : ∀ id ∉ written, plan'.services id = plan.services id
  conflicts : plan.conflicts ⊆ plan'.conflicts
  changed : plan.changed = true → plan'.changed = true
  same : plan'.changed = false → plan'.services = plan.services

theorem planService_sound (h : planService env records plan service = .ok plan')
    (hrec : plan.services service.serviceID = records service.serviceID) :
    Proceeds plan plan' [service.serviceID] ∧ Planned records plan' service := by
  unfold planService at h
  unfold Planned
  cases hr : records service.serviceID with
  | none =>
    rw [hr] at h hrec
    cases h
    exact ⟨⟨fun _ _ ↦ rfl, List.subset_append_left _ _, id, fun _ ↦ rfl⟩, hrec,
      List.subset_append_right _ _⟩
  | some protocol =>
    rw [hr] at h hrec
    cases protocol with
    | none =>
      cases h
      exact ⟨⟨fun _ _ ↦ rfl, List.subset_append_left _ _, id, fun _ ↦ rfl⟩, hrec,
        List.subset_append_right _ _⟩
    | some c =>
      simp only [ok_iff] at h
      obtain ⟨r, hrestoration, _, -, hplan⟩ := h
      cases hplan
      refine ⟨⟨fun id hid ↦ ?_, List.subset_append_left _ _, fun hc ↦ by simp [hc], fun hc ↦ ?_⟩,
        r, hrestoration, ?_, fun hc ↦ by simp [hc], List.subset_append_right _ _⟩
      · split
        · exact Function.update_of_ne (by simpa using hid) _ _
        · rfl
      · have hnot : r.changed = false := by simpa using (Bool.or_eq_false_iff.mp hc).2
        simp [hnot]
      · split
        · exact Function.update_self _ _ _
        · next hnot =>
          rw [hrec, restoration_of_not_changed hrestoration (by simpa using hnot)]

theorem Planned.proceeds {written} (h : Planned records plan service)
    (hp : Proceeds plan plan' written) (hnot : service.serviceID ∉ written) :
    Planned records plan' service := by
  unfold Planned at h ⊢
  rw [hp.services _ hnot]
  cases hr : records service.serviceID with
  | none =>
    rw [hr] at h
    exact ⟨h.1, List.Subset.trans h.2 hp.conflicts⟩
  | some protocol =>
    rw [hr] at h
    cases protocol with
    | none => exact ⟨h.1, List.Subset.trans h.2 hp.conflicts⟩
    | some c =>
      obtain ⟨r, hr, hservices, hchanged, hconflicts⟩ := h
      exact ⟨r, hr, hservices, fun hx ↦ hp.changed (hchanged hx),
        List.Subset.trans hconflicts hp.conflicts⟩

theorem foldlM_planService (hn : (services.map (·.serviceID)).Nodup)
    (hrec : ∀ service ∈ services, plan.services service.serviceID = records service.serviceID)
    (h : services.foldlM (planService env records) plan = .ok plan') :
    Proceeds plan plan' (services.map (·.serviceID)) ∧
      ∀ service ∈ services, Planned records plan' service := by
  induction services generalizing plan with
  | nil =>
    cases h
    exact ⟨⟨fun _ _ ↦ rfl, fun _ hx ↦ hx, id, fun _ ↦ rfl⟩, nofun⟩
  | cons service services ih =>
    rw [List.map_cons, List.nodup_cons] at hn
    rw [List.foldlM_cons, bind_eq_ok] at h
    obtain ⟨next, hstep, hrest⟩ := h
    obtain ⟨hp, hplanned⟩ := planService_sound hstep (hrec service List.mem_cons_self)
    have hne (s) (hs : s ∈ services) : s.serviceID ∉ [service.serviceID] := by
      rw [List.mem_singleton]
      intro heq
      exact hn.1 (heq ▸ List.mem_map_of_mem hs)
    obtain ⟨hp', hplanned'⟩ := ih hn.2 (fun s hs ↦ (hp.services _ (hne s hs)).trans
      (hrec s (List.mem_cons_of_mem _ hs))) hrest
    refine ⟨⟨fun id hid ↦ ?_, List.Subset.trans hp.conflicts hp'.conflicts,
      fun hc ↦ hp'.changed (hp.changed hc), fun hc ↦ ?_⟩, ?_⟩
    · rw [List.map_cons, List.mem_cons, not_or] at hid
      rw [hp'.services id hid.2, hp.services id (by simpa using hid.1)]
    · have hc' : next.changed = false := by
        by_contra hne
        simp [hp'.changed (by simpa using hne)] at hc
      rw [hp'.same hc, hp.same hc']
    · intro s hs
      rcases List.mem_cons.mp hs with rfl | hs
      · exact hplanned.proceeds hp' hn.1
      · exact hplanned' s hs

theorem planRestoration_sound {journal} (hj : journal.Valid)
    (h : planRestoration env journal records = .ok plan) :
    Proceeds ⟨records, [], [], false⟩ plan (journal.services.map (·.serviceID)) ∧
      ∀ service ∈ journal.services, Planned records plan service :=
  foldlM_planService hj.nodup (fun _ _ ↦ rfl) h

theorem exists_changed_of_foldlM (h : services.foldlM (planService env records) plan = .ok plan')
    (hc : plan'.changed = true) : plan.changed = true ∨ ∃ service ∈ services, ∃ c r,
      records service.serviceID = some (some c) ∧ restoration service c = .ok r ∧
        r.changed = true := by
  induction services generalizing plan with
  | nil =>
    cases h
    exact .inl hc
  | cons service services ih =>
    rw [List.foldlM_cons, bind_eq_ok] at h
    obtain ⟨next, hstep, hrest⟩ := h
    rcases ih hrest with hnext | ⟨s, hs, hr⟩
    · unfold planService at hstep
      split at hstep
      · cases hstep
        exact .inl hnext
      · cases hstep
        exact .inl hnext
      · next c hrecord =>
        simp only [ok_iff] at hstep
        obtain ⟨r, hrestoration, _, -, hplan⟩ := hstep
        cases hplan
        rcases Bool.or_eq_true_iff.mp hnext with hplan | hr
        · exact .inl hplan
        · exact .inr ⟨service, List.mem_cons_self, c, r, hrecord, hrestoration, hr⟩
    · exact .inr ⟨s, List.mem_cons_of_mem _ hs, hr⟩

end Plans

def Plan.commit (plan : Plan) (p : Preferences) : Preferences :=
  if plan.changed then ⟨plan.services, p.commits + 1⟩ else p

section Runs

variable {env : Environment} {journal : ProxyOwnershipJournal} {p : Preferences} {plan : Plan}

theorem ends_loadServiceRecords :
    Ends (loadServiceRecords env) p (fun records q ↦ records = p.services ∧ q = p) (· = p) :=
  .bind <| .of_check rfl fun _ _ ↦ .of_get_bind (.of_pure ⟨rfl, rfl⟩)

theorem ends_applyWithoutCommit : Ends (applyWithoutCommit env) p (fun _ q ↦ q = p) (· = p) :=
  .bind <| .of_check rfl fun _ _ ↦ .of_check rfl fun _ _ ↦ rfl

theorem ends_commitAndApply {services} :
    Ends (commitAndApply env services) p (fun _ q ↦ q = ⟨services, p.commits + 1⟩)
      (fun q ↦ q = p ∨ q = ⟨services, p.commits + 1⟩) := by
  refine .bind <| .of_check (.inl rfl) fun _ _ ↦ .bind <| .of_check (.inl rfl) fun _ _ ↦
    .of_get_bind <| .of_set_bind ?_
  exact ends_applyWithoutCommit.mono (fun _ _ h ↦ h) fun _ h ↦ .inr h

theorem ends_publishRestoration : Ends (publishRestoration env plan) p (fun _ q ↦ q = plan.commit p)
      (fun q ↦ q = p ∨ q = plan.commit p) := by
  unfold publishRestoration Plan.commit
  split
  · exact .bind <| ends_commitAndApply.mono (fun _ _ h ↦ .of_pure h) fun _ h ↦ h
  · split
    · exact .bind <| ends_applyWithoutCommit.mono (fun _ _ h ↦ .of_pure h) fun _ h ↦ .inl h
    · exact .of_pure rfl

theorem ends_publishAndVerify : Ends (publishAndVerify env plan) p (fun _ q ↦ q = plan.commit p)
      (fun q ↦ q = p ∨ q = plan.commit p) := by
  refine .bind <| ends_publishRestoration.mono (fun didPublish q hq ↦ ?_) fun _ h ↦ h
  cases didPublish with
  | false => exact .of_pure hq
  | true =>
    refine .bind <| ends_loadServiceRecords.mono (fun records t ht ↦ ?_) fun t ht ↦ .inr (ht ▸ hq)
    refine .bind <| .of_check (.inr (ht.2 ▸ hq)) fun _ _ ↦ .of_pure (ht.2 ▸ hq)

/-- The preferences after `restore`: as they were, or with one plan carried out. -/
def Written (env : Environment) (journal : ProxyOwnershipJournal) (p q : Preferences) : Prop :=
  q = p ∨ ∃ plan, planRestoration env journal p.services = .ok plan ∧ q = plan.commit p

def Carried (env : Environment) (journal : ProxyOwnershipJournal) (p : Preferences)
    (out : ProxyRestoreResult × Bool) (q : Preferences) : Prop :=
  ∃ plan, planRestoration env journal p.services = .ok plan ∧ q = plan.commit p ∧
    (out.1.isComplete = true ↔ plan.conflicts = [])

theorem alreadyRestored_not_changed (h : alreadyRestored env journal plan = .ok true) :
    plan.changed = false := by
  unfold alreadyRestored at h
  split at h
  · next hc => simp_all
  · cases h

theorem ends_restoreOwned :
    Ends (restoreOwned env journal) p (Carried env journal p) (Written env journal p) := by
  refine .bind <| ends_loadServiceRecords.mono (fun records q hq ↦ ?_) fun _ h ↦ .inl h
  obtain ⟨rfl, rfl⟩ := hq
  refine .bind <| .of_check (.inl rfl) fun plan hplan ↦ .bind <| .of_check (.inl rfl)
    fun already halready ↦ ?_
  have hcomplete : (⟨plan.conflicts.mergeSort ProxyOwnershipConflict.le, []⟩ :
      ProxyRestoreResult).isComplete = true ↔ plan.conflicts = [] := by
    have hlength : (plan.conflicts.mergeSort ProxyOwnershipConflict.le).length =
        plan.conflicts.length := List.length_mergeSort plan.conflicts
    rw [ProxyRestoreResult.isComplete, List.isEmpty_iff, ← List.length_eq_zero_iff,
      ← List.length_eq_zero_iff, hlength]
  cases already with
  | true =>
    refine .of_pure ⟨plan, hplan, ?_, hcomplete⟩
    simp [Plan.commit, alreadyRestored_not_changed halready]
  | false =>
    refine .bind <| ends_publishAndVerify.mono (fun didPublish q hq ↦ ?_) fun q hq ↦ ?_
    · exact .of_pure ⟨plan, hplan, hq, hcomplete⟩
    · exact hq.imp id fun hq ↦ ⟨plan, hplan, hq⟩

variable {c : Configuration} {q : Preferences} {service : SystemProxyServiceOwnership}
variable {changes : List ProxyOwnershipConflict} {out : ProxyRestoreResult × Bool}
  {r : ServiceRestoration} {records : String → Option (Option Configuration)}

theorem Carried.written (h : Carried env journal p out q) : Written env journal p q := by
  obtain ⟨plan, hplan, hq, -⟩ := h
  exact .inr ⟨plan, hplan, hq⟩

theorem ends_withLockedPreferences {α : Type} {x}
    {Q : α → Preferences → Prop} {E : Preferences → Prop} (hE : E p) (hQ : ∀ a q, Q a q → E q)
    (h : Ends x p Q E) : Ends (withLockedPreferences env x) p Q E := by
  refine .bind <| .of_check hE fun _ _ ↦ .bind <| .of_check hE fun _ _ ↦ .bind <| .of_check hE
    fun _ _ ↦ ?_
  unfold Ends EStateM.run at h ⊢
  dsimp only
  cases hx : x p with
  | ok a q =>
    simp only [hx] at h
    cases env.unlocks with
    | true => exact h
    | false => exact hQ a q h
  | error e q =>
    simp only [hx] at h
    cases env.unlocks <;> exact h

def Settled (journal : ProxyOwnershipJournal) (q : Preferences) : Prop :=
  ∀ service ∈ journal.services, ∃ c, q.services service.serviceID = some (some c) ∧
    ∀ e ∈ enableFlags, (HoldsOriginal service c e ∨ Released service c e) ∧
      (HoldsApplied service c e → HoldsOriginal service c e)

theorem released_of_allReleased {conflicts} (h : allReleased service c conflicts = .ok true) {x}
    (hx : x ∈ conflicts) : isReleasedProxyGroup x.field service c = .ok true := by
  induction conflicts with
  | nil => cases hx
  | cons conflict conflicts ih =>
    simp only [allReleased, bind_eq_ok] at h
    obtain ⟨released, hreleased, h⟩ := h
    cases released with
    | false => cases h
    | true =>
      rcases List.mem_cons.mp hx with rfl | hx
      · exact hreleased
      · exact ih h hx

theorem observeReleasedService_sound
    (h : observeReleasedService records service = .ok (some changes)) :
    ∃ c, records service.serviceID = some (some c) ∧
      ∀ e ∈ enableFlags, (HoldsOriginal service c e ∨ Released service c e) ∧
        (HoldsApplied service c e → HoldsOriginal service c e) := by
  unfold observeReleasedService at h
  split at h
  · cases h
  · cases h
  · next c hc =>
    simp only [bind_eq_ok] at h
    obtain ⟨r, hr, h⟩ := h
    split at h
    · cases h
    · next hchanged =>
      simp only [bind_eq_ok] at h
      obtain ⟨released, hreleased, h⟩ := h
      cases released with
      | false => cases h
      | true =>
        refine ⟨c, hc, fun e he ↦ ?_⟩
        have happlied : HoldsApplied service c e → HoldsOriginal service c e := by
          intro happlied
          by_contra hnot
          exact hchanged ((restoration_changed_iff hr).mpr ⟨e, he, happlied, hnot⟩)
        refine ⟨?_, happlied⟩
        rcases restoration_group_cases hr he with horiginal | hours | ⟨x, hx, hgroup⟩
        · exact .inl horiginal
        · exact .inl (happlied hours)
        · refine .inr ?_
          rw [Released, ← isReleasedProxyGroup_eq hgroup]
          exact released_of_allReleased hreleased hx

theorem observeReleasedServices_sound {services}
    (h : observeReleasedServices records services = .ok (some changes)) :
    ∀ service ∈ services, ∃ changes, observeReleasedService records service = .ok (some changes) := by
  induction services generalizing changes with
  | nil => nofun
  | cons service services ih =>
    simp only [observeReleasedServices, bind_eq_ok] at h
    obtain ⟨first, hfirst, h⟩ := h
    cases first with
    | none => cases h
    | some first =>
      simp only [bind_eq_ok] at h
      obtain ⟨rest, hrest, h⟩ := h
      cases rest with
      | none => cases h
      | some rest =>
        intro s hs
        rcases List.mem_cons.mp hs with rfl | hs
        · exact ⟨first, hfirst⟩
        · exact ih hrest s hs

theorem ends_observeReleasedPreferences {asked} :
    Ends (observeReleasedPreferences env asked journal) p
      (fun released q ↦ q = p ∧ (released.isSome → Settled journal p)) (· = p) := by
  refine .bind <| .of_check rfl fun _ _ ↦ .bind <| ends_loadServiceRecords.mono
    (fun records q hq ↦ ?_) fun _ h ↦ h
  obtain ⟨rfl, rfl⟩ := hq
  refine .bind <| .of_check rfl fun changes hchanges ↦ ?_
  cases changes with
  | none => exact .of_pure ⟨rfl, nofun⟩
  | some changes =>
    refine .bind <| .of_check rfl fun inEffect _ ↦ .of_pure ⟨rfl, fun _ service hs ↦ ?_⟩
    obtain ⟨changes, hservice⟩ := observeReleasedServices_sound hchanges service hs
    exact observeReleasedService_sound hservice

theorem Proceeds.commit_services {written} (h : Proceeds ⟨p.services, [], [], false⟩ plan written) :
    (plan.commit p).services = plan.services := by
  unfold Plan.commit
  split
  · rfl
  · next hnot => exact (h.same (by simpa using hnot)).symm

/-- A plan without conflicts leaves every journalled group as it was. -/
theorem settled_of_plan (hj : journal.Valid) (hplan : planRestoration env journal p.services =
    .ok plan) (hconflicts : plan.conflicts = []) : Settled journal (plan.commit p) := by
  obtain ⟨hproceeds, hplanned⟩ := planRestoration_sound hj hplan
  intro service hs
  have hvalid := hj.services service hs
  have hp := hplanned service hs
  unfold Planned at hp
  -- A missing service would be a conflict, since every service has fields.
  have hnonempty (reason) : ¬missing service reason ⊆ plan.conflicts := by
    intro hsub
    obtain ⟨owned, howned, -⟩ := List.mem_map.mp (hvalid.complete .httpEnabled)
    have hmem := hsub (List.mem_map_of_mem howned)
    simp [hconflicts] at hmem
  cases hr : p.services service.serviceID with
  | none => exact absurd (hr ▸ hp).2 (hnonempty _)
  | some protocol =>
    rw [hr] at hp
    cases protocol with
    | none => exact absurd hp.2 (hnonempty _)
    | some c =>
      obtain ⟨r, hrestoration, hconfiguration, -, hsub⟩ := hp
      refine ⟨r.configuration, by rw [hproceeds.commit_services, hconfiguration], fun e he ↦ ?_⟩
      have horiginal : HoldsOriginal service r.configuration e := by
        by_cases howned : Owned service c e
        · exact holdsOriginal_restored hvalid hrestoration he howned
        · rcases restoration_group_cases hrestoration he with horig | happlied | ⟨x, hx, -⟩
          · intro owned hmem hgroup
            rw [restoration_of_group_not_owned hrestoration he howned hgroup]
            exact horig owned hmem hgroup
          · by_contra hnot
            refine howned ⟨happlied, fun horig ↦ hnot fun owned hmem hgroup ↦ ?_⟩
            rw [restoration_of_group_not_owned hrestoration he howned hgroup]
            exact horig owned hmem hgroup
          · have hmem := hsub hx
            simp [hconflicts] at hmem
      exact ⟨.inl horiginal, fun _ ↦ horiginal⟩

theorem ends_finishRestore (hsettled : out.1.isComplete = true → Settled journal q) :
    Ends (finishRestore env journal out) q
      (fun result q' ↦ q' = q ∧ (result.isComplete = true → Settled journal q)) (· = q) := by
  unfold finishRestore
  split
  · exact .bind <| .of_check rfl fun _ _ ↦ .bind <| .of_check rfl fun _ _ ↦
      .of_pure ⟨rfl, hsettled⟩
  · split
    · exact .of_pure ⟨rfl, hsettled⟩
    · next hnot =>
      refine .bind <| ends_observeReleasedPreferences.mono (fun released q' hq ↦ ?_) fun _ h ↦ h
      obtain ⟨rfl, hreleased⟩ := hq
      refine .of_pure ⟨rfl, fun hcomplete ↦ ?_⟩
      cases released with
      | none => exact absurd hcomplete hnot
      | some result => exact hreleased rfl

def Answered (env : Environment) (journal : ProxyOwnershipJournal) (p : Preferences)
    (result : ProxyRestoreResult) (q : Preferences) : Prop :=
  (result.isComplete = true → Settled journal q) ∧
    ((q = p ∧ Settled journal p) ∨
      ∃ plan, planRestoration env journal p.services = .ok plan ∧ q = plan.commit p)

theorem ends_restore (hj : journal.Valid) :
    Ends (restore env journal) p (Answered env journal p) (Written env journal p) := by
  refine .bind <| ends_observeReleasedPreferences.mono (fun released q hq ↦ ?_) fun _ h ↦ .inl h
  obtain ⟨rfl, hreleased⟩ := hq
  cases released with
  | some result => exact .of_pure ⟨fun _ ↦ hreleased rfl, .inl ⟨rfl, hreleased rfl⟩⟩
  | none =>
    refine .bind <| (ends_withLockedPreferences (.inl rfl) (fun _ _ h ↦ h.written)
      ends_restoreOwned).mono (fun out t ht ↦ ?_) fun _ h ↦ h
    obtain ⟨plan, hplan, rfl, hcomplete⟩ := ht
    have hsettled (hc : out.1.isComplete = true) : Settled journal (plan.commit q) :=
      settled_of_plan hj hplan (hcomplete.mp hc)
    exact (ends_finishRestore hsettled).mono
      (fun result q' h ↦ ⟨h.1 ▸ h.2, .inr ⟨plan, hplan, h.1⟩⟩)
      fun q' h ↦ .inr ⟨plan, hplan, h⟩

theorem after_restore_of_not_owned (hj : journal.Valid)
    (h : ∀ service ∈ journal.services, ∀ c, q.services service.serviceID = some (some c) →
      ∀ e ∈ enableFlags, ¬Owned service c e) : leaves (restore env journal) q = q := by
  have hwritten : Written env journal q (leaves (restore env journal) q) := by
    refine (ends_restore hj).leaves fun result t ht ↦ ?_
    exact ht.2.imp_left (·.1)
  rcases hwritten with hq | ⟨plan, hplan, hq⟩
  · exact hq
  · rw [hq, Plan.commit, if_neg]
    intro hc
    rcases exists_changed_of_foldlM hplan hc with hfalse | ⟨service, hs, c, r, hrecord, hr, hchanged⟩
    · cases hfalse
    · obtain ⟨e, he, howned⟩ := (restoration_changed_iff hr).mp hchanged
      exact h service hs c hrecord e he howned

theorem Answered.not_owned {result} (hj : journal.Valid)
    (h : Answered env journal p result q) (service) (hs : service ∈ journal.services)
    (c : Configuration) (hc : q.services service.serviceID = some (some c)) (e : SystemProxyField)
    (he : e ∈ enableFlags) : ¬Owned service c e := by
  rcases h.2 with ⟨rfl, hsettled⟩ | ⟨plan, hplan, rfl⟩
  · obtain ⟨c', hc', hgroups⟩ := hsettled service hs
    obtain rfl : c' = c := by simpa [hc'] using hc
    exact fun howned ↦ howned.2 ((hgroups e he).2 howned.1)
  · obtain ⟨hproceeds, hplanned⟩ := planRestoration_sound hj hplan
    rw [hproceeds.commit_services] at hc
    have hp := hplanned service hs
    unfold Planned at hp
    split at hp
    · obtain ⟨r, hr, hconfiguration, -⟩ := hp
      rw [hc] at hconfiguration
      cases hconfiguration
      exact not_owned_restored (hj.services service hs) hr he
    · next hne =>
      rw [hc] at hp
      exact absurd hp.1.symm (hne c)

def ChangesOwned (service : SystemProxyServiceOwnership) (c c' : Configuration) : Prop :=
  ∀ k, c' k = c k ∨ ∃ e ∈ enableFlags, HoldsApplied service c e ∧ ∃ owned ∈ service.fields,
    InGroup e owned.field ∧ owned.field.rawValue = k ∧
      c' k = owned.originalValue.map foundationValue

def RestoresOwned (service : SystemProxyServiceOwnership) (c c' : Configuration) : Prop :=
  ∀ e ∈ enableFlags, HoldsApplied service c e → HoldsOriginal service c e ∨
    ∀ owned ∈ service.fields, InGroup e owned.field →
      c' owned.field.rawValue = owned.originalValue.map foundationValue

theorem changesOwned_restoration (hs : service.Valid) (h : restoration service c = .ok r) :
    ChangesOwned service c r.configuration := by
  intro k
  by_cases hk : ∃ e ∈ enableFlags, Owned service c e ∧ ∃ owned ∈ service.fields,
      InGroup e owned.field ∧ owned.field.rawValue = k
  · obtain ⟨e, he, howned, owned, hmem, hgroup, rfl⟩ := hk
    exact .inr ⟨e, he, howned.1, owned, hmem, hgroup, rfl,
      restoration_of_owned hs h hmem he hgroup howned⟩
  · refine .inl (restoration_of_not_owned h fun e he howned owned hmem hgroup heq ↦ ?_)
    exact hk ⟨e, he, howned, owned, hmem, hgroup, heq⟩

theorem restoresOwned_restoration (hs : service.Valid) (h : restoration service c = .ok r) :
    RestoresOwned service c r.configuration := by
  intro e he happlied
  by_cases horiginal : HoldsOriginal service c e
  · exact .inl horiginal
  · exact .inr fun owned hmem hgroup ↦
      restoration_of_owned hs h hmem he hgroup ⟨happlied, horiginal⟩

theorem commit_services (hj : journal.Valid) (hplan : planRestoration env journal p.services =
    .ok plan) (id : String) : (plan.commit p).services id = p.services id ∨
      ∃ service ∈ journal.services, service.serviceID = id ∧ ∃ c r,
        p.services id = some (some c) ∧ restoration service c = .ok r ∧
        (plan.commit p).services id = some (some r.configuration) := by
  obtain ⟨hproceeds, hplanned⟩ := planRestoration_sound hj hplan
  rw [hproceeds.commit_services]
  by_cases hid : id ∈ journal.services.map (·.serviceID)
  · obtain ⟨service, hs, rfl⟩ := List.mem_map.mp hid
    have hp := hplanned service hs
    unfold Planned at hp
    split at hp
    · next c hrecord =>
      obtain ⟨r, hr, hconfiguration, -⟩ := hp
      exact .inr ⟨service, hs, rfl, c, r, hrecord, hr, hconfiguration⟩
    · exact .inl hp.1
  · exact .inl (hproceeds.services id hid)

end Runs

/-- `restore` writes only the protocol groups that hold the applied values and gives them their
originals; when it reports completion every group is as it was or no longer uses our listener; and
a second run writes nothing. -/
theorem restore_writes_owned {phase : ProxyOwnershipJournalPhase}
    {configuration : ConfigurationDescriptor} {services : List SystemProxyServiceOwnership}
    {journal : ProxyOwnershipJournal}
    (hj : ProxyOwnershipJournal.make phase configuration services = .ok journal)
    (env : Environment) (p : Preferences) :
    (∀ id, (leaves (restore env journal) p).services id = p.services id ∨
      ∃ service ∈ journal.services, service.serviceID = id ∧ ∃ c c', p.services id = some (some c) ∧
        (leaves (restore env journal) p).services id = some (some c') ∧
        ChangesOwned service c c' ∧ RestoresOwned service c c') ∧
    ∀ result q, (restore env journal).run p = .ok result q →
      (∀ service ∈ journal.services, ∀ c, p.services service.serviceID = some (some c) →
        ∃ c', q.services service.serviceID = some (some c') ∧ RestoresOwned service c c') ∧
      (result.isComplete = true → Settled journal q) ∧
      ∀ env', leaves (restore env' journal) q = q := by
  have hvalid := ProxyOwnershipJournal.valid_of_make hj
  have hends : Ends (restore env journal) p (Answered env journal p) (Written env journal p) :=
    ends_restore hvalid
  refine ⟨fun id ↦ ?_, fun result q hrun ↦ ?_⟩
  · have hwritten := hends.leaves fun result t ht ↦ ht.2.imp_left (·.1)
    rcases hwritten with hq | ⟨plan, hplan, hq⟩
    · exact .inl (by rw [hq])
    · rw [hq]
      refine (commit_services hvalid hplan id).imp_right ?_
      rintro ⟨service, hs, rfl, c, r, hrecord, hr, hconfiguration⟩
      exact ⟨service, hs, rfl, c, r.configuration, hrecord, hconfiguration,
        changesOwned_restoration (hvalid.services service hs) hr,
        restoresOwned_restoration (hvalid.services service hs) hr⟩
  · have hanswered := hends.of_run_ok hrun
    refine ⟨fun service hs c hrecord ↦ ?_, hanswered.1, fun env' ↦
      after_restore_of_not_owned hvalid (hanswered.not_owned hvalid)⟩
    have hnot := hanswered.not_owned hvalid service hs
    rcases hanswered.2 with ⟨rfl, -⟩ | ⟨plan, hplan, rfl⟩
    · exact ⟨c, hrecord, fun e he happlied ↦ .inl (by_contra fun h ↦
        hnot c hrecord e he ⟨happlied, h⟩)⟩
    · rcases commit_services hvalid hplan service.serviceID with
        hsame | ⟨service', hs', hid, c', r, hrecord', hr, hconfiguration⟩
      · refine ⟨c, hsame.trans hrecord, fun e he happlied ↦ .inl (by_contra fun h ↦ ?_)⟩
        exact hnot c (hsame.trans hrecord) e he ⟨happlied, h⟩
      · obtain rfl : service' = service :=
          List.inj_on_of_nodup_map hvalid.nodup hs' hs hid
        obtain rfl : c' = c := by simpa [hrecord'] using hrecord
        exact ⟨r.configuration, hconfiguration,
          restoresOwned_restoration (hvalid.services service' hs) hr⟩

def activatedService : SystemProxyServiceOwnership where
  serviceID := "en0"
  fields := [.httpEnabled, .httpPort, .httpHost, .httpsEnabled, .httpsPort, .httpsHost,
    .proxyAutoConfigEnabled, .proxyAutoDiscoveryEnabled, .socksEnabled, .socksPort,
    .socksHost].map fun field ↦ ⟨field, none, appliedValues "127.0.0.1" 7890 field⟩

def activatedJournal : ProxyOwnershipJournal where
  phase := .applied
  configuration := ⟨.systemProxy, ""⟩
  services := [activatedService]

def activatedPreferences : Preferences where
  services id := if id = "en0" then
    some (some fun k ↦ (SystemProxyField.allCases.find? (·.rawValue = k)).map fun field ↦
      foundationValue (appliedValues "127.0.0.1" 7890 field)) else none
  commits := 0

def grantingEnvironment : Environment where
  openPreferences := .ok ()
  verifyLock := .ok ()
  verifyCommit := .ok ()
  verifyApply := .ok ()
  locks := true
  unlocks := true
  networkSet := true
  setsConfiguration _ := true
  commits := true
  applies := true
  primaryServiceID := some "en0"
  effectiveProxies _ := some fun _ ↦ none
  polls := 0
  errorCode := 0
  describing _ := ""

theorem make_activatedService : SystemProxyServiceOwnership.make "en0" activatedService.fields =
    .ok activatedService := by
  have hsorted : activatedService.fields.mergeSort
      (fun a b ↦ decide (a.field.rawValue ≤ b.field.rawValue)) = activatedService.fields :=
    List.mergeSort_of_pairwise (by decide)
  rw [SystemProxyServiceOwnership.make, hsorted]
  rfl

theorem make_activatedJournal :
    ProxyOwnershipJournal.make .applied ⟨.systemProxy, ""⟩ [activatedService] =
      .ok activatedJournal := by
  have hall : [activatedService].mapM (fun service ↦
      SystemProxyServiceOwnership.make service.serviceID service.fields) =
        .ok [activatedService] := by
    have hservice : SystemProxyServiceOwnership.make activatedService.serviceID
      activatedService.fields = .ok activatedService := make_activatedService
    rw [List.mapM_cons, hservice]
    rfl
  simp only [ProxyOwnershipJournal.make, ok_iff]
  refine ⟨⟨⟩, ⟨trivial, fun h ↦ by cases h⟩, [activatedService], hall, ⟨⟩, by decide, ⟨⟩, rfl, ?_⟩
  rw [List.mergeSort_singleton]
  rfl

theorem restore_activated :
    ProxyOwnershipJournal.make .applied ⟨.systemProxy, ""⟩ [activatedService] =
      .ok activatedJournal ∧
    ∀ result q, (restore grantingEnvironment activatedJournal).run activatedPreferences =
      .ok result q → result.isComplete = true → Settled activatedJournal q :=
  ⟨make_activatedJournal, fun result q hrun ↦
    ((restore_writes_owned make_activatedJournal grantingEnvironment activatedPreferences).2
      result q hrun).2.1⟩

end CfwRs.MacProxy
