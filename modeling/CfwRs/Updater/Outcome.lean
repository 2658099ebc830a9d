import CfwRs.Updater.Truthful

namespace CfwRs.Updater

open Relation (ReflTransGen)

/-- What a step relies on that the code cannot make sure of: the observations that the dashboard
which handed off has ended are right, and no dashboard runs, not even one that is about to be
admitted, while the bundles are exchanged. -/
structure Heeds (m m' : Machine) : Prop where
  decommissioned : ∀ record, m'.recorded = .valid record → record.phase = .decommissioned →
    m'.recorded ≠ m.recorded → m.dashboards record.dashboard = .ended
  exchanged : m'.installed ≠ m.installed → ∀ d, ¬(m.dashboards d).Alive
  reviewed : ∀ d i record, m.dashboards d = .reviewing i (.inspected (.valid record)) →
    m'.dashboards d = .reviewing i (.settled (.valid record)) →
    record.phase = .handedOff ∨ record.phase = .decommissioned →
    m.dashboards record.dashboard = .ended

section Facts

variable {m : Machine} {d p : Process} {i : BundleIdentity} {staged : StagedUpdate}
  {record : InstallRecord}

theorem Invariant.dashboard {s} (h : Invariant m) (hd : m.dashboards d = s) :
    DashboardSound m d s := hd ▸ h.dashboards d

variable {s : Installer}

theorem Invariant.installer (h : Invariant m) (hp : m.installers p = s) :
    InstallerSound m p s := hp ▸ h.installers p

theorem InstallerSound.lease (h : InstallerSound m p s) (hs : s.Holds) :
    m.lease = some (.installer p) := by
  cases s with
  | absent | ended | starting t => exact hs.elim
  | admitted t | loaded record | decommissioned record | exchanged record | aborting t code =>
    exact h.1

theorem Installer.Relies.holds (h : s.Relies) : s.Holds := by
  cases s <;> trivial

theorem InstallerSound.stands (h : InstallerSound m p s) (hs : s.Relies) : ∃ t, Stands m t := by
  cases s with
  | absent | ended | starting t | admitted t | loaded record | aborting t code => exact hs.elim
  | decommissioned record => exact ⟨_, h.2.2.2.1⟩
  | exchanged record => exact ⟨_, h.2.1⟩

section

variable (h : Invariant m)
include h

/-- A dashboard that has not ended moves on; it hands off no more once it has retired. -/
theorem Invariant.moveDashboard {s s'} (hd : m.dashboards d = s)
    (hs : DashboardSound m d s') (hr : s.Retired → s'.Retired := by simp [Dashboard.Retired])
    (hne : s ≠ .ended := by simp) : Invariant (m.setDashboard d s') :=
  h.setDashboard (hd ▸ hr) (fun he ↦ absurd (hd.symm.trans he) hne) hs

theorem Invariant.not_relies {holder} (hl : m.lease = some holder)
    (hp : ∀ q, holder = .installer q → ¬(m.installers q).Relies) (q : Process) :
    ¬(m.installers q).Relies := by
  intro hq
  have hlease := (h.installers q).lease hq.holds
  rw [hl] at hlease
  exact hp q (Option.some.inj hlease) hq

theorem Invariant.not_relies_of_installer (hl : m.lease = some (.installer p))
    (hp : ¬(m.installers p).Relies) (q : Process) : ¬(m.installers q).Relies := by
  refine h.not_relies hl ?_ q
  rintro _ ⟨⟩
  exact hp

theorem Invariant.not_relies_of_phase
    (hrec : ∀ record, m.recorded = .valid record → record.phase ≠ .decommissioned) (q : Process) :
    ¬(m.installers q).Relies := by
  intro hq
  obtain ⟨t, record, hr, -, hphase⟩ := (h.installers q).stands hq
  exact hrec record hr hphase

theorem Invariant.not_exchanged_of_owner (horigin : m.origins staged.transaction = some (d, staged))
    (hd : m.dashboards d ≠ .ended) : ¬Exchanged m.history staged.transaction := by
  intro he
  obtain ⟨o, ho, hended⟩ := h.exchanged _ he
  cases horigin.symm.trans ho
  exact hd hended

theorem Invariant.not_reported_of_owner (horigin : m.origins staged.transaction = some (d, staged))
    (hd : ¬(m.dashboards d).Retired) : ¬Reported m.history staged.transaction := by
  intro he
  obtain ⟨⟨o, ho, hretired⟩, -⟩ := h.reported _ he
  cases horigin.symm.trans ho
  exact hd hretired

theorem Invariant.owner_eq (hrec : m.recorded = .valid record)
    (horigin : m.origins record.transaction = some (d, staged)) :
    record.dashboard = d ∧ record.original = staged.installed ∧ record.target = staged.staged := by
  have ho := (h.record record hrec).1.origin
  rw [horigin] at ho
  cases ho
  exact ⟨rfl, rfl, rfl⟩

theorem Invariant.not_reported_of_record (hrec : m.recorded = .valid record) :
    ¬Reported m.history record.transaction :=
  fun hr ↦ (h.reported _ hr).2 record hrec rfl

/-- What a dashboard that holds a record for settled reports about it. -/
theorem Invariant.justified_classify (hr : RecordSound m record) (hi : i = m.installed) :
    Justified m.history (.reported record.transaction (classify record i.version)) := by
  have hversion := (h.origins _ _ hr.origin).2
  unfold classify
  by_cases he : Exchanged m.history record.transaction
  · -- The running version is the target's.
    obtain ⟨hinstalled, hphase⟩ := hr.after he
    subst hi
    rw [if_pos (by rw [hinstalled])]
    rcases hphase with hphase | hphase <;> · rw [hphase]; exact he
  · obtain ⟨hinstalled, hphase⟩ := hr.before he
    subst hi
    rw [hinstalled, if_neg hversion, if_neg (not_not_intro rfl)]
    cases hp : record.phase with
    | swapped => exact absurd hp hphase
    | handedOff | decommissioned | aborted => exact he

end

end Facts

section Steps

variable {m m' : Machine} {d p : Process} {i : BundleIdentity} {staged : StagedUpdate}
  {record written : InstallRecord} {durable : Bool}

theorem Invariant.beginHandOff (h : Invariant m)
    (hd : m.dashboards d = .handingOff i staged .checked)
    (hbegin : InstallJournal.begin (.newHandedOff staged.transaction staged.installed
      staged.staged d) m.recorded = .ok record) :
    Invariant (m.store (.valid record) durable (.handedOff record.transaction)) := by
  obtain ⟨rfl, -, hold⟩ := InstallJournal.begin_eq_ok hbegin
  obtain ⟨-, horigin, hinstalled⟩ := h.dashboard hd
  have hnot : ¬Exchanged m.history staged.transaction :=
    h.not_exchanged_of_owner horigin (by simp [hd])
  refine h.store trivial (h.not_relies_of_phase fun r hr hphase ↦ ?_) fun r hr ↦ ?_
  · rcases hold with habsent | ⟨existing, hvalid, hphase', -⟩
    · simp [habsent] at hr
    · rw [hvalid] at hr
      cases hr
      simp [hphase] at hphase'
  · cases hr
    refine ⟨⟨horigin, fun he ↦ absurd he hnot, fun _ ↦ ⟨hinstalled, nofun⟩, nofun, ?_⟩,
      h.not_reported_of_owner horigin (by simp [hd, Dashboard.Retired]), fun _ ↦ .inl rfl⟩
    rintro (hp | hp) <;> cases hp

theorem Invariant.clearHandOff (h : Invariant m) (hd : m.dashboards d = .handingOff i staged .begun)
    (hclear : InstallJournal.clear staged.transaction m.recorded = .ok ()) :
    Invariant (m.store .absent durable (.cleared staged.transaction)) := by
  refine h.store trivial (h.not_relies_of_phase fun r hr hphase ↦ ?_) nofun
  have ht : r.transaction = staged.transaction := by
    simpa [InstallJournal.clear, hr] using hclear
  have howner : r.dashboard = d :=
    (h.owner_eq hr (ht ▸ (h.dashboard hd).2.1)).1
  have hended := (h.record r hr).1.ended (.inl hphase)
  rw [howner, hd] at hended
  cases hended

variable {code : String}

theorem RecordSound.aborted (h : RecordSound m record)
    (hretired : (m.dashboards record.dashboard).Retired)
    (hnot : ¬Exchanged m.history record.transaction) :
    RecordSound m { record with phase := .aborted, failure := some code } where
  origin := h.origin
  after he := absurd he hnot
  before he := ⟨(h.before he).1, nofun⟩
  retired _ := hretired
  ended := by rintro (hp | hp) <;> cases hp

section

variable (h : Invariant m)
include h

theorem Invariant.abortHandOff (hd : m.dashboards d = .handingOff i staged .notStarted)
    (habort : InstallJournal.abort staged.transaction code m.recorded = .ok record) :
    Invariant (m.store (.valid record) durable (.aborted record.transaction)) := by
  obtain ⟨old, hold, ht, hphase, rfl⟩ := InstallJournal.abort_eq_ok habort
  have horigin : m.origins old.transaction = some (d, staged) := ht ▸ (h.dashboard hd).2.1
  have howner : old.dashboard = d := (h.owner_eq hold horigin).1
  have hsound := (h.record old hold).1
  have hunreported := h.not_reported_of_record hold
  have hnot : old.phase ≠ .decommissioned := by
    intro hdec
    have hended := hsound.ended (.inl hdec)
    rw [howner, hd] at hended
    cases hended
  refine h.store trivial (h.not_relies_of_phase fun r hr ↦ ?_) fun r hr ↦ ?_
  · rw [hold] at hr
    cases hr
    exact hnot
  · cases hr
    refine ⟨hsound.aborted ?_ ?_, hunreported, ?_⟩
    · simp [howner, hd, Dashboard.Retired]
    · exact ht ▸ h.not_exchanged_of_owner (h.dashboard hd).2.1 (by simp [hd])
    · rintro (hp | hp) <;> cases hp

theorem Invariant.abortInstallation {t} (hp : m.installers p = .aborting t code)
    (habort : InstallJournal.abort t code m.recorded = .ok record) :
    Invariant (m.store (.valid record) durable (.aborted t)) := by
  obtain ⟨old, hold, rfl, hphase, rfl⟩ := InstallJournal.abort_eq_ok habort
  obtain ⟨hlease, ⟨o, ho, hretired⟩, hnot⟩ := h.installer hp
  have howner : old.dashboard = o.1 := (h.owner_eq hold ho).1
  have hunreported := h.not_reported_of_record hold
  refine h.store trivial (h.not_relies_of_installer hlease (by simp [hp, Installer.Relies])) ?_
  rintro r ⟨⟩
  refine ⟨(h.record old hold).1.aborted (howner ▸ hretired) hnot, hunreported, ?_⟩
  rintro (hp | hp) <;> cases hp

theorem Invariant.advance (hp : m.installers p = .loaded record)
    (hadvance : InstallJournal.advance record.transaction .handedOff .decommissioned m.recorded =
      .ok written) (hended : m.dashboards written.dashboard = .ended) :
    Invariant ((m.store (.valid written) durable (.advanced record.transaction)).setInstaller p
      (if durable then .decommissioned record
        else .aborting record.transaction "record_write_failed")) := by
  obtain ⟨old, hold, ht, hphase, rfl⟩ := InstallJournal.advance_eq_ok hadvance
  obtain ⟨hlease, howner, hnot⟩ := h.installer hp
  obtain ⟨hsound, hstanding⟩ := h.record old hold
  have hunreported := h.not_reported_of_record hold
  have hstored : Invariant (m.store (.valid { old with phase := .decommissioned }) durable
      (.advanced record.transaction)) := by
    refine h.store trivial (h.not_relies_of_installer hlease (by simp [hp, Installer.Relies])) ?_
    rintro r ⟨⟩
    exact ⟨⟨hsound.origin, fun he ↦ absurd (ht ▸ he) hnot, fun he ↦ ⟨(hsound.before he).1, nofun⟩,
      nofun, fun _ ↦ hended⟩, hunreported, fun _ ↦ hstanding (.inl hphase)⟩
  have hnot' := mt (Event.Quiet.exchanged (e := .advanced record.transaction) trivial).mp hnot
  refine hstored.setInstaller ?_
  cases durable with
  | true => exact ⟨hlease, howner, hnot', ⟨_, rfl, ht, rfl⟩, rfl⟩
  | false => exact ⟨hlease, howner, hnot'⟩

theorem Invariant.recordExchange (hp : m.installers p = .exchanged record)
    (hadvance : InstallJournal.advance record.transaction .decommissioned .swapped m.recorded =
      .ok written) :
    Invariant ((m.store (.valid written) durable (.advanced record.transaction)).setInstaller p
      .ended) := by
  obtain ⟨old, hold, ht, hphase, rfl⟩ := InstallJournal.advance_eq_ok hadvance
  obtain ⟨hlease, -, he⟩ := h.installer hp
  have hsound := (h.record old hold).1
  have hunreported := h.not_reported_of_record hold
  -- The installer relies on the record until it is gone, so its end comes first.
  have hgone : Invariant (m.setInstaller p .ended) := h.setInstaller trivial
  refine hgone.store trivial (hgone.not_relies_of_installer hlease
    (by simp [Machine.setInstaller, Installer.Relies])) ?_
  rintro r ⟨⟩
  refine ⟨⟨hsound.origin, fun he ↦ ⟨(hsound.after he).1, .inr rfl⟩,
    fun hne ↦ absurd (ht ▸ he) hne, by simp, fun _ ↦ hsound.ended (.inl hphase)⟩, hunreported, ?_⟩
  rintro (hp | hp) <;> cases hp

/-- The exchange, while no dashboard runs. -/
theorem Invariant.exchange {b} (hp : m.installers p = .decommissioned record)
    (hstaging : m.staging record.transaction = some b) (hdead : ∀ c, ¬(m.dashboards c).Alive) :
    Invariant (((m.exchangeBundles record.transaction b).log
      (.exchanged p record.transaction m.lease m.recorded m.durable)).setInstaller p
        (.exchanged record)) := by
  obtain ⟨hlease, howner, hnot, ⟨current, hcurrent, ht, hphase⟩, hdurable⟩ := h.installer hp
  obtain ⟨hsound, hstanding⟩ := h.record current hcurrent
  have hnew : Exchanged (.exchanged p record.transaction m.lease m.recorded m.durable :: m.history)
      record.transaction := exchanged_cons.mpr (.inl ⟨p, _, _, _, rfl⟩)
  have hold {u : Transaction} (hu : u ≠ record.transaction) : Exchanged
      (.exchanged p record.transaction m.lease m.recorded m.durable :: m.history) u →
      Exchanged m.history u := by
    rw [exchanged_cons]
    rintro (⟨p', l, r, b', heq⟩ | he)
    · cases heq
      exact absurd rfl hu
    · exact he
  have htarget : b = current.target := by
    obtain ⟨o, ho, rfl⟩ := h.staging _ _ hstaging hnot
    have horigin : m.origins current.transaction = some o := ht ▸ ho
    exact (h.owner_eq hcurrent horigin).2.2.symm
  refine ⟨fun c ↦ ?_, fun q ↦ ?_, fun r hr ↦ ?_, h.origins, fun u b' hb he ↦ ?_, fun u hu ↦ ?_,
    fun u hu ↦ ?_, fun u v c hc ↦ ?_, ⟨⟨hlease, hdurable, ⟨current, hcurrent, ht, hphase⟩, hnot,
      ht ▸ hstanding (.inr hphase), ht ▸ h.not_reported_of_record hcurrent⟩, h.truthful⟩⟩
  · have hc := hdead c
    change DashboardSound _ c (m.dashboards c)
    cases hs : m.dashboards c with
    | absent | ended => trivial
    | launching | idle | reviewing | handingOff | leaving => simp [hs, Dashboard.running] at hc
  · by_cases hq : q = p
    · subst hq
      simp only [Machine.setInstaller, Function.update_self]
      exact ⟨hlease, ⟨current, hcurrent, ht, hphase⟩, hnew⟩
    · simp only [Machine.setInstaller, Function.update_of_ne hq]
      have hfree : ¬(m.installers q).Holds := by
        intro hh
        have hl := (h.installers q).lease hh
        rw [hlease] at hl
        cases hl
        exact hq rfl
      change InstallerSound _ q (m.installers q)
      cases hs : m.installers q with
      | absent | ended => trivial
      | starting t => exact h.installer hs
      | admitted | loaded | decommissioned | exchanged | aborting =>
        exact (hfree (by simp [hs, Installer.Holds])).elim
  · obtain rfl : r = current := by
      have hr' : m.recorded = .valid r := hr
      rw [hcurrent] at hr'
      cases hr'
      rfl
    exact ⟨⟨hsound.origin, fun _ ↦ ⟨htarget, .inl hphase⟩, fun hne ↦ absurd (ht ▸ hnew) hne,
      hsound.retired, hsound.ended⟩, fun _ ↦ hstanding (.inr hphase)⟩
  · by_cases hu : u = record.transaction
    · exact absurd (hu ▸ hnew) he
    · refine h.staging u b' ?_ (mt (fun hx ↦ exchanged_cons.mpr (.inr hx)) he)
      simpa [Machine.setInstaller, Machine.log, Machine.exchangeBundles, Machine.setStaging, hu]
        using hb
  · by_cases hut : u = record.transaction
    · subst hut
      rw [← ht]
      exact ⟨_, hsound.origin, hsound.ended (.inl hphase)⟩
    · exact h.exchanged u (hold hut hu)
  · rcases reported_cons.mp hu with ⟨outcome, heq⟩ | hu
    · cases heq
    · exact h.reported u hu
  · rcases List.mem_cons.mp hc with heq | hc
    · cases heq
    · by_cases hut : u = record.transaction
      · exact absurd ⟨_, hc⟩ (hut ▸ ht ▸ h.not_reported_of_record hcurrent)
      · exact mt (hold hut) (h.failed u v c hc)

theorem Invariant.settle {recorded} (hd : m.dashboards d = .reviewing i (.inspected recorded))
    (hh : Heeds m (m.setDashboard d (.reviewing i (.settled recorded)))) :
    Invariant (m.setDashboard d (.reviewing i (.settled recorded))) := by
  obtain ⟨hi, hlease, hsound⟩ := h.dashboard hd
  refine h.moveDashboard hd ⟨hi, hlease, ?_⟩
  rintro r rfl
  refine ⟨hsound r rfl, ?_⟩
  have hended (hr : m.dashboards r.dashboard = .ended) : (m.dashboards r.dashboard).Retired := by
    rw [hr]
    trivial
  have hreviewed := hh.reviewed d i r hd (by simp [Machine.setDashboard])
  cases hp : r.phase with
  | handedOff => exact hended (hreviewed (.inl hp))
  | decommissioned => exact hended (hreviewed (.inr hp))
  | swapped => exact hended ((hsound r rfl).ended (.inr hp))
  | aborted => exact (hsound r rfl).retired hp

section

variable (hd : m.dashboards d = .reviewing i (.settled (.valid record)))
include hd

theorem Invariant.clearReviewed :
    Invariant (m.store .absent durable (.cleared record.transaction)) := by
  refine h.store trivial (h.not_relies (h.dashboard hd).2.1 ?_) nofun
  intro q hq
  cases hq

theorem Invariant.reportReviewed :
    Invariant ((m.store .absent true (.cleared record.transaction)).log
      (.reported record.transaction (classify record i.version))) := by
  have hcleared : Invariant (m.store .absent true (.cleared record.transaction)) :=
    h.clearReviewed hd
  obtain ⟨hi, -, hsound⟩ := hcleared.dashboard hd
  obtain ⟨hrecord, hretired⟩ := hsound record rfl
  exact hcleared.report ⟨_, hrecord.origin, hretired⟩ nofun (hcleared.justified_classify hrecord hi)

end

theorem Invariant.endReview {s stage}
    (hd : m.dashboards d = .reviewing i stage) (hs : DashboardSound m d s)
    (hnot : ∀ i stage, s ≠ .reviewing i stage) :
    Invariant ((m.setDashboard d s).release (.dashboard d)) :=
  (h.moveDashboard hd hs).release_dashboard (by simpa [Machine.setDashboard] using hnot)

theorem Invariant.endInstaller : Invariant ((m.setInstaller p .ended).release (.installer p)) :=
  (h.setInstaller (s := .ended) trivial).release_installer
    (by simp [Machine.setInstaller, Installer.Holds])

end

theorem Step.invariant (hs : Step m m') (hh : Heeds m m') (h : Invariant m) : Invariant m' := by
  cases hs with
  | launch hd => exact h.moveDashboard hd rfl
  | launched hd _ | spawnFailed hd =>
    have hsound := h.dashboard hd
    exact h.moveDashboard hd hsound
  | endDashboard _ =>
    refine (h.setDashboard (s := .ended) (fun _ ↦ trivial) (fun _ ↦ rfl) trivial).release_dashboard
      ?_
    simp [Machine.setDashboard]
  | beginReview hd hlease =>
    exact (h.take hlease).moveDashboard hd ⟨h.dashboard hd, rfl, trivial⟩
  | inspect hd =>
    obtain ⟨hi, hlease, -⟩ := h.dashboard hd
    exact h.moveDashboard hd ⟨hi, hlease, fun record hr ↦ (h.record record hr).1⟩
  | settle hd => exact h.settle hd hh
  | removeStaging t _ => exact h.removeStaging t
  | reviewedNothing hd | leaveReview hd => exact h.endReview hd (h.dashboard hd).1 (by simp)
  | discardUninterpretable durable hd hrecord =>
    have hstored : Invariant (m.store .absent durable .discarded) :=
      h.store trivial (h.not_relies_of_phase (by simp [hrecord])) (by simp)
    exact hstored.endReview hd (h.dashboard hd).1 (by simp)
  | report durable hd hclear =>
    cases durable with
    | true =>
      exact (h.reportReviewed hd).endReview hd (h.dashboard hd).1 (by simp)
    | false =>
      exact (h.clearReviewed hd).endReview hd (h.dashboard hd).1 (by simp)
  | stage staged hd hfresh hversion _ =>
    refine (h.stage hfresh hversion).moveDashboard hd ⟨h.dashboard hd, ?_⟩
    simp [Machine.setStaging, Machine.setOrigin]
  | handOff hd hinstalled =>
    obtain ⟨hi, horigin⟩ := h.dashboard hd
    exact h.moveDashboard hd ⟨hi, horigin, hinstalled⟩
  | handOffRefused hd | clearHandOffFailed hd =>
    obtain ⟨hi, horigin, -⟩ := h.dashboard hd
    exact h.moveDashboard hd ⟨hi, horigin⟩
  | beginHandOff durable hd hbegin =>
    obtain ⟨hi, horigin, hinstalled⟩ := h.dashboard hd
    refine (h.beginHandOff hd hbegin).moveDashboard hd ?_ (by cases durable <;> exact False.elim)
    cases durable with
    | true => exact ⟨hi, horigin, hinstalled⟩
    | false => exact ⟨hi, horigin⟩
  | clearHandOff durable hd hclear =>
    obtain ⟨hi, horigin, -⟩ := h.dashboard hd
    exact (h.clearHandOff hd hclear).moveDashboard hd ⟨hi, horigin⟩
  | @spawnInstaller d p i staged hd hp =>
    have hsound := h.dashboard hd
    have hwaiting : Invariant (m.setDashboard d (.handingOff i staged (.waiting p))) :=
      h.moveDashboard hd hsound
    refine hwaiting.setInstaller ⟨(d, staged), hsound.2.1, ?_⟩
    simp [Machine.setDashboard, Dashboard.Retired]
  | installerAdmitted hd _ | abortHandOffFailed hd =>
    exact h.moveDashboard hd (h.dashboard hd).1
  | installerNotAdmitted killed hd =>
    have hsound := h.dashboard hd
    cases killed with
    | true =>
      exact h.endInstaller.moveDashboard hd hsound
    | false => exact h.moveDashboard hd hsound
  | abortHandOff durable hd habort =>
    exact (h.abortHandOff hd habort).moveDashboard hd (h.dashboard hd).1
  | acquireLease hp hlease => exact (h.take hlease).setInstaller ⟨rfl, h.installer hp⟩
  | load hp hrecord htransaction hphase =>
    obtain ⟨hlease, howner⟩ := h.installer hp
    refine h.setInstaller ⟨hlease, htransaction ▸ howner, fun he ↦ ?_⟩
    simpa [hphase] using ((h.record _ hrecord).1.after he).2
  | decommissionFailed _ hp _ | advanceFailed _ hp _ =>
    have hsound := h.installer hp
    exact h.setInstaller hsound
  | advance durable ports hp hports hadvance =>
    obtain ⟨old, hold, ht, hphase, rfl⟩ := InstallJournal.advance_eq_ok hadvance
    refine h.advance hp hadvance (hh.decommissioned _ rfl rfl fun heq ↦ ?_)
    rw [hold] at heq
    have hsame : ({ old with phase := .decommissioned } : InstallRecord) = old :=
      Recorded.valid.inj heq
    rw [← hsame] at hphase
    cases hphase
  | @exchange p record b hp hstaging =>
    refine h.exchange hp hstaging (hh.exchanged fun heq ↦ ?_)
    have heq : b = m.installed := heq
    obtain ⟨-, -, hnot, ⟨current, hcurrent, ht, -⟩, -⟩ := h.installer hp
    obtain ⟨o, ho, rfl⟩ := h.staging _ _ hstaging hnot
    have horigin : m.origins current.transaction = some o := ht ▸ ho
    obtain ⟨-, horiginal, -⟩ := h.owner_eq hcurrent horigin
    have hbefore := ((h.record current hcurrent).1.before (ht ▸ hnot)).1
    exact (h.origins _ o ho).2 (by rw [heq, hbefore, horiginal])
  | exchangeFailed hp =>
    obtain ⟨hlease, howner, hnot, -⟩ := h.installer hp
    exact h.setInstaller ⟨hlease, howner, hnot⟩
  | recordExchange durable hp hadvance =>
    exact (h.recordExchange hp hadvance).release_installer
      (by simp [Machine.setInstaller, Installer.Holds])
  | abortInstallation durable hp habort => exact (h.abortInstallation hp habort).endInstaller
  | endInstaller _ => exact h.endInstaller

end Steps

def Machine.start (installed : BundleIdentity) : Machine where
  recorded := .absent
  durable := true
  lease := none
  installed
  staging _ := none
  dashboards _ := .absent
  installers _ := .absent
  origins _ := none
  history := []

abbrev HeedfulStep (m m' : Machine) : Prop := Step m m' ∧ Heeds m m'

theorem invariant_start (installed : BundleIdentity) : Invariant (.start installed) := by
  refine ⟨fun _ ↦ trivial, fun _ ↦ trivial, nofun, nofun, nofun, ?_, ?_, nofun, trivial⟩
  · rintro t ⟨p, lease, recorded, durable, hmem⟩
    cases hmem
  · rintro t ⟨outcome, hmem⟩
    cases hmem

theorem invariant_of_run {installed m}
    (h : ReflTransGen HeedfulStep (.start installed) m) : Invariant m := by
  induction h with
  | refl => exact invariant_start installed
  | tail _ hs ih => exact hs.1.invariant hs.2 ih

/-- Only a review that has settled what was recorded takes staging away. -/
theorem Step.staging_removed {m m'} (hs : Step m m') {t : Transaction}
    (hbefore : m.staging t ≠ none) (hafter : m'.staging t = none) :
    ∃ d i recorded, m.dashboards d = .reviewing i (.settled recorded) := by
  cases hs with
  | removeStaging u hd => exact ⟨_, _, _, hd⟩
  | @stage d i staged hd =>
    by_cases ht : t = staged.transaction
    · subst ht
      simp [Machine.setDashboard, Machine.setStaging] at hafter
    · exact absurd (by simpa [Machine.setDashboard, Machine.setStaging, Machine.setOrigin, ht]
        using hafter) hbefore
  | @exchange p record b =>
    by_cases ht : t = record.transaction
    · subst ht
      simp [Machine.setInstaller, Machine.log, Machine.exchangeBundles, Machine.setStaging] at hafter
    · exact absurd (by simpa [Machine.setInstaller, Machine.log, Machine.exchangeBundles,
        Machine.setStaging, ht] using hafter) hbefore
  | report durable | installerNotAdmitted durable =>
    cases durable <;> exact absurd hafter hbefore
  | launch | launched | endDashboard | beginReview | inspect | settle | reviewedNothing
  | discardUninterpretable | leaveReview | handOff | handOffRefused | beginHandOff | clearHandOff
  | clearHandOffFailed | spawnInstaller | spawnFailed | installerAdmitted | abortHandOff
  | abortHandOffFailed | acquireLease | load | decommissionFailed | advance | advanceFailed
  | exchangeFailed | recordExchange | abortInstallation | endInstaller =>
    exact absurd hafter hbefore

/-- Every exchange and every report of a run is justified, what was reported as failed is never
exchanged, and staging is taken away only by the review that holds the lease. -/
theorem update_outcome_truthful {installed : BundleIdentity} {m : Machine}
    (h : ReflTransGen HeedfulStep (.start installed) m) : Truthful m.history ∧
      (∀ t version code, .reported t (.failed version code) ∈ m.history → ¬Exchanged m.history t) ∧
      ∀ m', Step m m' → ∀ t, m.staging t ≠ none → m'.staging t = none →
        ∃ d i recorded, m.dashboards d = .reviewing i (.settled recorded) ∧
          m.lease = some (.dashboard d) := by
  have hinv := invariant_of_run h
  refine ⟨hinv.truthful, hinv.failed, fun m' hs t hbefore hafter ↦ ?_⟩
  obtain ⟨d, i, recorded, hd⟩ := hs.staging_removed hbefore hafter
  exact ⟨d, i, recorded, hd, (hinv.dashboard hd).2.1⟩

section Examples

variable {m m' : Machine}

def Dashboard.settledRecord : Dashboard → Option InstallRecord
  | .reviewing _ (.settled (.valid record)) => some record
  | _ => none

theorem Heeds.of_dashboard (d : Process) (s : Dashboard)
    (hd : m'.dashboards = Function.update m.dashboards d s) (hs : s.settledRecord = none)
    (hrec : ∀ record, m'.recorded = .valid record → record.phase ≠ .decommissioned)
    (hinstalled : m'.installed = m.installed) : Heeds m m' where
  decommissioned record hr hp := absurd hp (hrec record hr)
  exchanged hne := absurd hinstalled hne
  reviewed c i record hbefore hafter := by
    rw [hd] at hafter
    by_cases hc : c = d
    · subst hc
      rw [Function.update_self] at hafter
      simp [hafter, Dashboard.settledRecord] at hs
    · simp [hc, hbefore] at hafter

theorem Heeds.of_installer (hd : m'.dashboards = m.dashboards)
    (hrec : ∀ record, m'.recorded = .valid record → record.phase = .decommissioned →
      m.dashboards record.dashboard = .ended)
    (hinstalled : m'.installed ≠ m.installed → ∀ d, ¬(m.dashboards d).Alive) : Heeds m m' where
  decommissioned record hr hp _ := hrec record hr hp
  exchanged := hinstalled
  reviewed c i record hbefore hafter := by simp [hd, hbefore] at hafter

def oldBundle : BundleIdentity := ⟨"1.0.0", 1⟩

def newBundle : BundleIdentity := ⟨"2.0.0", 2⟩

def stagedRelease : StagedUpdate := ⟨7, oldBundle, newBundle⟩

def clearPorts : FinisherPorts where
  dashboardRunning _ := .ok false
  dashboards _ := .ok []
  verifyStaged := .ok ()
  serviceStatus _ := .ok ⟨.notRegistered, .notRegistered⟩
  unregisterProxyAgent := .ok ()
  unregisterGlobalAuthority := .ok ()

theorem exists_exchange : ∃ m, ReflTransGen HeedfulStep (.start oldBundle) m ∧
    Exchanged m.history 7 := by
  have hhandedOff : ∀ record, Recorded.valid (.newHandedOff 7 oldBundle newBundle 1) =
      .valid record → record.phase ≠ .decommissioned := by
    nofun
  refine ⟨_, .head ⟨.launch rfl, .of_dashboard 1 _ rfl rfl nofun rfl⟩ <|
    .head ⟨.launched rfl rfl, .of_dashboard 1 _ rfl rfl nofun rfl⟩ <|
    .head ⟨.beginReview rfl rfl, .of_dashboard 1 _ rfl rfl nofun rfl⟩ <|
    .head ⟨.inspect rfl, .of_dashboard 1 _ rfl rfl nofun rfl⟩ <|
    .head ⟨.settle rfl, .of_dashboard 1 _ rfl rfl nofun rfl⟩ <|
    .head ⟨.reviewedNothing rfl, .of_dashboard 1 _ rfl rfl nofun rfl⟩ <|
    .head ⟨.stage stagedRelease rfl rfl (by decide) (by decide),
      .of_dashboard 1 _ rfl rfl nofun rfl⟩ <|
    .head ⟨.handOff rfl rfl, .of_dashboard 1 _ rfl rfl nofun rfl⟩ <|
    .head ⟨.beginHandOff (d := 1) true rfl rfl, .of_dashboard 1 _ rfl rfl hhandedOff rfl⟩ <|
    .head ⟨.spawnInstaller (d := 1) (p := 2) rfl rfl, .of_dashboard 1 _ rfl rfl hhandedOff rfl⟩ <|
    .head ⟨.acquireLease (p := 2) rfl rfl, .of_installer rfl
      (fun r hr hp ↦ absurd hp (hhandedOff r hr)) (absurd rfl)⟩ <|
    .head ⟨.load (p := 2) rfl rfl rfl rfl, .of_installer rfl
      (fun r hr hp ↦ absurd hp (hhandedOff r hr)) (absurd rfl)⟩ <|
    .head ⟨.endDashboard rfl, .of_dashboard 1 _ rfl rfl hhandedOff rfl⟩ <|
    .head ⟨.advance (p := 2) true clearPorts rfl rfl rfl, .of_installer rfl ?_ (absurd rfl)⟩ <|
    .head ⟨.exchange (p := 2) rfl rfl, .of_installer rfl ?_ fun _ d ↦ ?_⟩ .refl, ?_⟩
  · rintro r ⟨⟩ -
    rfl
  · rintro r ⟨⟩ -
    rfl
  · by_cases hd : d = 1
    · subst hd
      exact nofun
    · simp [Machine.setInstaller, Machine.store, Machine.release, Machine.setDashboard,
        Machine.setStaging, Machine.setOrigin, Machine.take, Machine.start, hd, Dashboard.running]
  · exact exchanged_cons.mpr (.inl ⟨_, _, _, _, rfl⟩)

theorem exchange_truthful : ∃ m : Machine, Exchanged m.history 7 ∧ Truthful m.history := by
  obtain ⟨m, hrun, hexchanged⟩ := exists_exchange
  exact ⟨m, hexchanged, (update_outcome_truthful hrun).1⟩

/-- A dashboard that was executed before the exchange and is admitted after it runs the old version
and takes the exchange for undone. -/
theorem stale_dashboard_reports_failure : ∃ m, ReflTransGen Step (.start oldBundle) m ∧
    Exchanged m.history 7 ∧
    .reported 7 (.failed "2.0.0" "installed_version_reverted") ∈ m.history := by
  refine ⟨_, .head (.launch (d := 1) rfl) <| .head (.launched (d := 1) rfl rfl) <|
    .head (.beginReview (d := 1) rfl rfl) <| .head (.inspect (d := 1) rfl) <|
    .head (.settle (d := 1) rfl) <| .head (.reviewedNothing (d := 1) rfl) <|
    .head (.stage (d := 1) stagedRelease rfl rfl (by decide) (by decide)) <|
    .head (.handOff (d := 1) rfl rfl) <| .head (.beginHandOff (d := 1) true rfl rfl) <|
    .head (.spawnInstaller (d := 1) (p := 2) rfl rfl) <| .head (.acquireLease (p := 2) rfl rfl) <|
    .head (.installerAdmitted (d := 1) rfl nofun) <| .head (.load (p := 2) rfl rfl rfl rfl) <|
    .head (.advance (p := 2) true clearPorts rfl rfl rfl) <|
    -- The next dashboard is executed from the old bundle.
    .head (.launch (d := 3) rfl) <| .head (.exchange (p := 2) rfl rfl) <|
    .head (.recordExchange (p := 2) true rfl rfl) <| .head (.launched (d := 3) rfl rfl) <|
    .head (.beginReview (d := 3) rfl rfl) <| .head (.inspect (d := 3) rfl) <|
    .head (.settle (d := 3) rfl) <| .head (.removeStaging (d := 3) 7 rfl) <|
    .head (.report (d := 3) true rfl rfl) .refl, ?_, ?_⟩
  · iterate 3 refine exchanged_cons.mpr (.inr ?_)
    exact exchanged_cons.mpr (.inl ⟨_, _, _, _, rfl⟩)
  · exact List.mem_cons_self

end Examples

end CfwRs.Updater
