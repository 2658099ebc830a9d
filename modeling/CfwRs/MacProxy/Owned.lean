import CfwRs.MacProxy.Restoration

namespace CfwRs.MacProxy

open Lib Lib.Checked

def InGroup (e field : SystemProxyField) : Prop :=
  field = e ∨ controllingEnableField field = some e

def HoldsApplied (service : SystemProxyServiceOwnership) (c : Configuration)
    (e : SystemProxyField) : Prop :=
  ∀ owned ∈ service.fields, InGroup e owned.field →
    value (c owned.field.rawValue) service.serviceID owned.field = .ok (some owned.appliedValue)

def HoldsOriginal (service : SystemProxyServiceOwnership) (c : Configuration)
    (e : SystemProxyField) : Prop :=
  ∀ owned ∈ service.fields, InGroup e owned.field →
    value (c owned.field.rawValue) service.serviceID owned.field =
      value (owned.originalValue.map foundationValue) service.serviceID owned.field

def Released (service : SystemProxyServiceOwnership) (c : Configuration)
    (e : SystemProxyField) : Prop := isReleasedProxyGroup e service c = .ok true

theorem inGroup_unique {e e' field} (he : e ∈ enableFlags)
    (he' : e' ∈ enableFlags) (h : InGroup e field) (h' : InGroup e' field) : e = e' := by
  have hflag : ∀ e ∈ enableFlags, controllingEnableField e = none := by decide
  rcases h with rfl | h <;> rcases h' with rfl | h'
  · rfl
  · simp [hflag _ he] at h'
  · simp [hflag _ he'] at h
  · exact Option.some.inj (h.symm.trans h')

theorem isReleasedProxyGroup_eq {e field} (h : InGroup e field) (service) (c) :
    isReleasedProxyGroup field service c = isReleasedProxyGroup e service c := by
  have hfields : protocolFields field = protocolFields e := by
    rcases h with rfl | h
    · rfl
    · cases field <;> simp [controllingEnableField] at h <;> subst h <;> rfl
  simp [isReleasedProxyGroup, hfields]

section Observations

variable {id : String} {c : Configuration} {fields : List OwnedSystemProxyField}
  {obs : List Observation} {o : Observation} {owned : OwnedSystemProxyField}

theorem observe_eq_ok : observe id c owned = .ok o ↔ o.ownership = owned ∧
    value (c owned.field.rawValue) id owned.field = .ok o.current ∧
    owned.field.acceptsOriginalValue o.current = true ∧
    value (owned.originalValue.map foundationValue) id owned.field = .ok o.original := by
  simp only [observe, ok_iff]
  constructor
  · rintro ⟨current, hcurrent, -, haccepts, original, horiginal, ho⟩
    cases ho
    exact ⟨rfl, hcurrent, haccepts, horiginal⟩
  · rintro ⟨rfl, hcurrent, haccepts, horiginal⟩
    exact ⟨o.current, hcurrent, ⟨⟩, haccepts, o.original, horiginal, rfl⟩

theorem ownerships_of_mapM (h : fields.mapM (observe id c) = .ok obs) :
    obs.map (·.ownership) = fields ∧ ∀ o ∈ obs, observe id c o.ownership = .ok o := by
  induction fields generalizing obs with
  | nil =>
    cases h
    simp
  | cons owned fields ih =>
    simp only [List.mapM_cons, ok_iff] at h
    obtain ⟨o, ho, rest, hrest, rfl⟩ := h
    obtain ⟨hmap, hmem⟩ := ih hrest
    have hown : o.ownership = owned := (observe_eq_ok.mp ho).1
    refine ⟨by simp [hmap, hown], ?_⟩
    intro o' ho'
    rcases List.mem_cons.mp ho' with rfl | ho'
    · rwa [hown]
    · exact hmem o' ho'

end Observations

def Writes (obs : List Observation) (e : SystemProxyField) : Prop :=
  (∃ o ∈ protocolGroup e obs, o.current ≠ o.original) ∧
    ∀ o ∈ protocolGroup e obs, o.current = some o.ownership.appliedValue

section Groups

variable {id : String} {obs : List Observation} {r : ServiceRestoration} {e : SystemProxyField}
  {o : Observation}

theorem mem_protocolGroup : o ∈ protocolGroup e obs ↔ o ∈ obs ∧ InGroup e o.ownership.field := by
  simp [protocolGroup, InGroup]

theorem restoreGroup_of_writes (h : Writes obs e) : restoreGroup id obs r e = { r with
      configuration := (protocolGroup e obs).foldl
        (fun c o ↦ setValue o.ownership.originalValue o.ownership.field c) r.configuration
      restoredFields := r.restoredFields ++ (protocolGroup e obs).map (·.ownership)
      changed := true } := by
  obtain ⟨⟨o, ho, hne⟩, happlied⟩ := h
  have hnot : ¬(protocolGroup e obs).all (fun o ↦ o.current = o.original) = true := by
    simpa using ⟨o, ho, hne⟩
  rw [restoreGroup, if_neg hnot, if_pos (by simpa using happlied)]

theorem restoreGroup_of_not_writes (h : ¬Writes obs e) :
    (restoreGroup id obs r e).configuration = r.configuration ∧
      (restoreGroup id obs r e).changed = r.changed := by
  unfold restoreGroup
  dsimp only
  split
  · exact ⟨rfl, rfl⟩
  · next horiginal =>
    split
    · next happlied => exact absurd ⟨by simpa using horiginal, by simpa using happlied⟩ h
    · exact ⟨rfl, rfl⟩

theorem conflicts_subset_restoreGroup (id : String) (obs) (r) (e) :
    r.conflicts ⊆ (restoreGroup id obs r e).conflicts := by
  unfold restoreGroup
  dsimp only
  split
  · exact fun _ h ↦ h
  · split
    · exact fun _ h ↦ h
    · exact List.subset_append_left _ _

theorem exists_conflict_of_group (id : String) (r)
    (h : ∃ o ∈ protocolGroup e obs, o.current ≠ o.original)
    (h' : ∃ o ∈ protocolGroup e obs, o.current ≠ some o.ownership.appliedValue) :
    ∃ x ∈ (restoreGroup id obs r e).conflicts, InGroup e x.field := by
  have hnot : ¬(protocolGroup e obs).all (fun o ↦ o.current = o.original) = true := by
    simpa using h
  have hnot' : ¬(protocolGroup e obs).all
      (fun o ↦ o.current = some o.ownership.appliedValue) = true := by
    simpa using h'
  rw [restoreGroup, if_neg hnot, if_neg hnot']
  obtain ⟨o, ho, hne⟩ := h'
  refine ⟨⟨id, o.ownership.field, .valueChanged o.current⟩, ?_, (mem_protocolGroup.mp ho).2⟩
  exact List.mem_append_right _ (List.mem_map.mpr
    ⟨o, List.mem_filter.mpr ⟨ho, by simpa using hne⟩, rfl⟩)

end Groups

section Folds

variable {id : String} {obs : List Observation} {flags : List SystemProxyField}
  {o : Observation} {k : String}

def setGroup (group : List Observation) (c : Configuration) : Configuration :=
  group.foldl (fun c o ↦ setValue o.ownership.originalValue o.ownership.field c) c

theorem setGroup_of_not_mem {group} (h : ∀ o ∈ group, o.ownership.field.rawValue ≠ k) (c) :
    setGroup group c k = c k := by
  induction group generalizing c with
  | nil => rfl
  | cons o group ih =>
    have hne : k ≠ o.ownership.field.rawValue := (h o List.mem_cons_self).symm
    rw [setGroup, List.foldl_cons, ← setGroup,
      ih (fun o ho ↦ h o (List.mem_cons_of_mem _ ho)), setValue, Function.update_of_ne hne]

theorem setGroup_of_mem {group}
    (hn : (group.map (·.ownership.field)).Nodup) (ho : o ∈ group) (c : Configuration) :
    setGroup group c o.ownership.field.rawValue =
      o.ownership.originalValue.map foundationValue := by
  induction group generalizing c with
  | nil => cases ho
  | cons o' group ih =>
    rw [List.map_cons, List.nodup_cons] at hn
    rw [setGroup, List.foldl_cons, ← setGroup]
    rcases List.mem_cons.mp ho with rfl | ho
    · rw [setGroup_of_not_mem, setValue, Function.update_self]
      intro o' ho' heq
      rw [SystemProxyField.rawValue_inj] at heq
      exact hn.1 (heq ▸ List.mem_map_of_mem ho')
    · exact ih hn.2 ho _

theorem configuration_of_not_writes
    (h : ∀ e ∈ flags, Writes obs e → ∀ o ∈ obs, InGroup e o.ownership.field →
      o.ownership.field.rawValue ≠ k) (r) :
    (flags.foldl (restoreGroup id obs) r).configuration k = r.configuration k := by
  induction flags generalizing r with
  | nil => rfl
  | cons e flags ih =>
    rw [List.foldl_cons, ih fun e he ↦ h e (List.mem_cons_of_mem _ he)]
    by_cases hw : Writes obs e
    · rw [restoreGroup_of_writes hw]
      refine setGroup_of_not_mem (fun o ho ↦ ?_) r.configuration
      obtain ⟨hmem, hgroup⟩ := mem_protocolGroup.mp ho
      exact h e List.mem_cons_self hw o hmem hgroup
    · rw [(restoreGroup_of_not_writes hw).1]

theorem configuration_of_writes (hn : (obs.map (·.ownership.field)).Nodup) (ho : o ∈ obs)
    (h : ∃ e ∈ flags, Writes obs e ∧ InGroup e o.ownership.field) (r : ServiceRestoration) :
    (flags.foldl (restoreGroup id obs) r).configuration o.ownership.field.rawValue =
      o.ownership.originalValue.map foundationValue := by
  induction flags generalizing r with
  | nil => simp at h
  | cons e flags ih =>
    rw [List.foldl_cons]
    by_cases hlater : ∃ e ∈ flags, Writes obs e ∧ InGroup e o.ownership.field
    · exact ih hlater _
    · have he : Writes obs e ∧ InGroup e o.ownership.field := by
        obtain ⟨e', he', hw⟩ := h
        rcases List.mem_cons.mp he' with rfl | he'
        · exact hw
        · exact absurd ⟨e', he', hw⟩ hlater
      rw [configuration_of_not_writes, restoreGroup_of_writes he.1]
      · have hgroup : ((protocolGroup e obs).map (·.ownership.field)).Nodup :=
          hn.sublist (List.filter_sublist.map _)
        exact setGroup_of_mem hgroup (mem_protocolGroup.mpr ⟨ho, he.2⟩) r.configuration
      · intro e' he' hw o' ho' hgroup heq
        rw [SystemProxyField.rawValue_inj] at heq
        exact hlater ⟨e', he', hw, heq ▸ hgroup⟩

theorem changed_foldl_iff (r) : (flags.foldl (restoreGroup id obs) r).changed = true ↔
      r.changed = true ∨ ∃ e ∈ flags, Writes obs e := by
  induction flags generalizing r with
  | nil => simp
  | cons e flags ih =>
    rw [List.foldl_cons, ih]
    by_cases hw : Writes obs e
    · simp [restoreGroup_of_writes hw, hw]
    · simp [(restoreGroup_of_not_writes hw).2, hw]

theorem conflicts_subset_foldl (r) :
    r.conflicts ⊆ (flags.foldl (restoreGroup id obs) r).conflicts := by
  induction flags generalizing r with
  | nil => exact fun _ h ↦ h
  | cons e flags ih =>
    exact List.Subset.trans (conflicts_subset_restoreGroup id obs r e)
      (ih (restoreGroup id obs r e))

theorem exists_conflict_foldl {e} (he : e ∈ flags)
    (h : ∃ o ∈ protocolGroup e obs, o.current ≠ o.original)
    (h' : ∃ o ∈ protocolGroup e obs, o.current ≠ some o.ownership.appliedValue) (r) :
    ∃ x ∈ (flags.foldl (restoreGroup id obs) r).conflicts, InGroup e x.field := by
  induction flags generalizing r with
  | nil => cases he
  | cons e' flags ih =>
    rcases List.mem_cons.mp he with rfl | he
    · obtain ⟨x, hx, hgroup⟩ := exists_conflict_of_group id r h h'
      exact ⟨x, conflicts_subset_foldl (restoreGroup id obs r e) hx, hgroup⟩
    · exact ih he _

end Folds

section Service

variable {service : SystemProxyServiceOwnership} {c : Configuration} {r : ServiceRestoration}
  {e : SystemProxyField} {owned : OwnedSystemProxyField} {obs : List Observation}

def Owned (service : SystemProxyServiceOwnership) (c : Configuration) (e : SystemProxyField) :
    Prop := HoldsApplied service c e ∧ ¬HoldsOriginal service c e

section

variable (h : service.fields.mapM (observe service.serviceID c) = .ok obs)
include h

theorem exists_observation (howned : owned ∈ service.fields) : ∃ o ∈ obs, o.ownership = owned := by
  rw [← (ownerships_of_mapM h).1] at howned
  exact List.mem_map.mp howned

theorem forall_group_iff {P : Observation → Prop} {Q : OwnedSystemProxyField → Prop}
    (hPQ : ∀ o, observe service.serviceID c o.ownership = .ok o → (Q o.ownership ↔ P o)) :
    (∀ owned ∈ service.fields, InGroup e owned.field → Q owned) ↔ ∀ o ∈ protocolGroup e obs, P o := by
  obtain ⟨hmap, hobs⟩ := ownerships_of_mapM h
  rw [← hmap, List.forall_mem_map]
  refine ⟨fun hall o ho ↦ ?_, fun hall o ho hgroup ↦ ?_⟩
  · obtain ⟨hmem, hgroup⟩ := mem_protocolGroup.mp ho
    exact (hPQ o (hobs o hmem)).mp (hall o hmem hgroup)
  · exact (hPQ o (hobs o ho)).mpr (hall o (mem_protocolGroup.mpr ⟨ho, hgroup⟩))

theorem holdsApplied_iff : HoldsApplied service c e ↔
      ∀ o ∈ protocolGroup e obs, o.current = some o.ownership.appliedValue := by
  refine forall_group_iff h fun o ho ↦ ?_
  rw [(observe_eq_ok.mp ho).2.1, Except.ok.injEq]

theorem holdsOriginal_iff :
    HoldsOriginal service c e ↔ ∀ o ∈ protocolGroup e obs, o.current = o.original := by
  refine forall_group_iff h fun o ho ↦ ?_
  obtain ⟨-, hcurrent, -, horiginal⟩ := observe_eq_ok.mp ho
  rw [hcurrent, horiginal, Except.ok.injEq]

theorem writes_iff : Writes obs e ↔ Owned service c e := by
  rw [Owned, holdsApplied_iff h, holdsOriginal_iff h, and_comm]
  push Not
  rfl

end

theorem restoration_eq_ok : restoration service c = .ok r ↔
    ∃ obs, service.fields.mapM (observe service.serviceID c) = .ok obs ∧
      r = enableFlags.foldl (restoreGroup service.serviceID obs) ⟨c, [], [], false⟩ := by
  simp only [restoration, bind_eq_ok, Except.ok.injEq]
  exact exists_congr fun obs ↦ and_congr_right fun _ ↦ eq_comm

theorem nodup_observations (hs : service.Valid)
    (h : service.fields.mapM (observe service.serviceID c) = .ok obs) :
    (obs.map (·.ownership.field)).Nodup := by
  have hmap : obs.map (·.ownership.field) = service.fields.map (·.field) := by
    rw [← (ownerships_of_mapM h).1, List.map_map]
    rfl
  exact hmap ▸ hs.nodup

theorem restoration_of_owned (hs : service.Valid) (h : restoration service c = .ok r)
    (howned : owned ∈ service.fields) (he : e ∈ enableFlags) (hgroup : InGroup e owned.field)
    (hwrites : Owned service c e) :
    r.configuration owned.field.rawValue = owned.originalValue.map foundationValue := by
  obtain ⟨obs, hobs, rfl⟩ := restoration_eq_ok.mp h
  obtain ⟨o, ho, rfl⟩ := exists_observation hobs howned
  exact configuration_of_writes (nodup_observations hs hobs) ho
    ⟨e, he, (writes_iff hobs).mpr hwrites, hgroup⟩ _

section

variable (h : restoration service c = .ok r)
include h

theorem restoration_of_not_owned {k}
    (hk : ∀ e ∈ enableFlags, Owned service c e → ∀ owned ∈ service.fields,
      InGroup e owned.field → owned.field.rawValue ≠ k) : r.configuration k = c k := by
  obtain ⟨obs, hobs, rfl⟩ := restoration_eq_ok.mp h
  refine configuration_of_not_writes (fun e he hw o ho hgroup ↦ ?_) _
  have hfield : o.ownership ∈ service.fields :=
    (ownerships_of_mapM hobs).1 ▸ List.mem_map_of_mem ho
  exact hk e he ((writes_iff hobs).mp hw) o.ownership hfield hgroup

theorem restoration_changed_iff : r.changed = true ↔ ∃ e ∈ enableFlags, Owned service c e := by
  obtain ⟨obs, hobs, rfl⟩ := restoration_eq_ok.mp h
  simp [changed_foldl_iff, writes_iff hobs]

theorem restoration_of_not_changed (hc : r.changed = false) : r.configuration = c := by
  funext k
  refine restoration_of_not_owned h fun e he howned ↦ ?_
  have hchanged := (restoration_changed_iff h).mpr ⟨e, he, howned⟩
  simp [hc] at hchanged

/-- A group is as it was, or ours, or one of its fields is reported. -/
theorem restoration_group_cases (he : e ∈ enableFlags) :
    HoldsOriginal service c e ∨ HoldsApplied service c e ∨
      ∃ x ∈ r.conflicts, InGroup e x.field := by
  obtain ⟨obs, hobs, rfl⟩ := restoration_eq_ok.mp h
  by_cases horiginal : HoldsOriginal service c e
  · exact .inl horiginal
  by_cases happlied : HoldsApplied service c e
  · exact .inr (.inl happlied)
  rw [holdsOriginal_iff hobs] at horiginal
  rw [holdsApplied_iff hobs] at happlied
  push Not at horiginal happlied
  exact .inr (.inr (exists_conflict_foldl he horiginal happlied _))

end

/-- After the restoration a group that was ours is as it was, and every other one is unchanged. -/
theorem holdsOriginal_restored (hs : service.Valid) (h : restoration service c = .ok r)
    (he : e ∈ enableFlags) (howned : Owned service c e) :
    HoldsOriginal service r.configuration e := by
  intro owned hmem hgroup
  rw [restoration_of_owned hs h hmem he hgroup howned]

theorem restoration_of_group_not_owned (h : restoration service c = .ok r)
    (he : e ∈ enableFlags) (hnot : ¬Owned service c e) (hgroup : InGroup e owned.field) :
    r.configuration owned.field.rawValue = c owned.field.rawValue := by
  refine restoration_of_not_owned h fun e' he' howned' owned' _ hgroup' heq ↦ ?_
  rw [SystemProxyField.rawValue_inj] at heq
  exact hnot (inGroup_unique he' he (heq ▸ hgroup') hgroup ▸ howned')

theorem not_owned_restored (hs : service.Valid) (h : restoration service c = .ok r)
    (he : e ∈ enableFlags) : ¬Owned service r.configuration e := by
  rintro ⟨happlied, hnot⟩
  by_cases howned : Owned service c e
  · exact hnot (holdsOriginal_restored hs h he howned)
  · refine howned ⟨fun owned hmem hgroup ↦ ?_, fun horiginal ↦ hnot fun owned hmem hgroup ↦ ?_⟩
    · rw [← restoration_of_group_not_owned h he howned hgroup]
      exact happlied owned hmem hgroup
    · rw [restoration_of_group_not_owned h he howned hgroup]
      exact horiginal owned hmem hgroup

end Service

end CfwRs.MacProxy
