import CfwRs.Updater.Installation

namespace CfwRs.Updater

def Exchanged (history : List Event) (t : Transaction) : Prop :=
  ∃ p lease recorded durable, .exchanged p t lease recorded durable ∈ history

def Reported (history : List Event) (t : Transaction) : Prop :=
  ∃ outcome, .reported t outcome ∈ history

def Standing (t : Transaction) : List Event → Prop
  | [] => False
  | .handedOff u :: earlier => u = t ∨ Standing t earlier
  | .aborted u :: earlier | .cleared u :: earlier => u ≠ t ∧ Standing t earlier
  | _ :: earlier => Standing t earlier

def Justified (earlier : List Event) : Event → Prop
  | .exchanged p t lease recorded durable =>
      lease = some (.installer p) ∧ durable = true ∧
        (∃ record, recorded = .valid record ∧ record.transaction = t ∧
          record.phase = .decommissioned) ∧
        ¬Exchanged earlier t ∧ Standing t earlier ∧ ¬Reported earlier t
  | .reported t (.installed _) => Exchanged earlier t
  | .reported t (.failed _ _) => ¬Exchanged earlier t
  | _ => True

def Truthful : List Event → Prop
  | [] => True
  | e :: earlier => Justified earlier e ∧ Truthful earlier

section Histories

variable {history : List Event} {t : Transaction} {e : Event}

def Event.Quiet : Event → Prop
  | .exchanged .. | .reported .. => False
  | _ => True

theorem exchanged_cons : Exchanged (e :: history) t ↔
    (∃ p lease recorded durable, e = .exchanged p t lease recorded durable) ∨
      Exchanged history t := by
  constructor
  · rintro ⟨p, lease, recorded, durable, h⟩
    rcases List.mem_cons.mp h with rfl | h
    · exact .inl ⟨p, lease, recorded, durable, rfl⟩
    · exact .inr ⟨p, lease, recorded, durable, h⟩
  · rintro (⟨p, lease, recorded, durable, rfl⟩ | ⟨p, lease, recorded, durable, h⟩)
    · exact ⟨p, lease, recorded, durable, List.mem_cons_self⟩
    · exact ⟨p, lease, recorded, durable, List.mem_cons_of_mem _ h⟩

theorem reported_cons : Reported (e :: history) t ↔
    (∃ outcome, e = .reported t outcome) ∨ Reported history t := by
  constructor
  · rintro ⟨outcome, h⟩
    rcases List.mem_cons.mp h with rfl | h
    · exact .inl ⟨outcome, rfl⟩
    · exact .inr ⟨outcome, h⟩
  · rintro (⟨outcome, rfl⟩ | ⟨outcome, h⟩)
    · exact ⟨outcome, List.mem_cons_self⟩
    · exact ⟨outcome, List.mem_cons_of_mem _ h⟩

theorem Event.Quiet.exchanged (h : e.Quiet) : Exchanged (e :: history) t ↔ Exchanged history t := by
  rw [exchanged_cons, or_iff_right]
  rintro ⟨p, lease, recorded, durable, rfl⟩
  exact h

theorem Event.Quiet.reported (h : e.Quiet) : Reported (e :: history) t ↔ Reported history t := by
  rw [reported_cons, or_iff_right]
  rintro ⟨outcome, rfl⟩
  exact h

theorem Event.Quiet.justified (h : e.Quiet) : Justified history e := by
  cases e <;> trivial

end Histories

def OwnerRetired (m : Machine) (t : Transaction) : Prop :=
  ∃ o, m.origins t = some o ∧ (m.dashboards o.1).Retired

/-- What holds of a record from the moment it was read or written, as long as no bundles are
exchanged. -/
structure RecordSound (m : Machine) (record : InstallRecord) : Prop where
  origin : m.origins record.transaction =
    some (record.dashboard, ⟨record.transaction, record.original, record.target⟩)
  after : Exchanged m.history record.transaction → m.installed = record.target ∧
    (record.phase = .decommissioned ∨ record.phase = .swapped)
  before : ¬Exchanged m.history record.transaction → m.installed = record.original ∧
    record.phase ≠ .swapped
  retired : record.phase = .aborted → (m.dashboards record.dashboard).Retired
  ended : record.phase = .decommissioned ∨ record.phase = .swapped →
    m.dashboards record.dashboard = .ended

def DashboardSound (m : Machine) (d : Process) : Dashboard → Prop
  | .absent | .ended => True
  | .launching i | .idle i _ none | .leaving i => i = m.installed
  | .idle i _ (some staged) => i = m.installed ∧ m.origins staged.transaction = some (d, staged)
  | .handingOff i staged _ => i = m.installed ∧ m.origins staged.transaction = some (d, staged) ∧
      m.installed = staged.installed
  | .reviewing i stage => i = m.installed ∧ m.lease = some (.dashboard d) ∧
      match stage with
      | .admitted => True
      | .inspected recorded => ∀ record, recorded = .valid record → RecordSound m record
      | .settled recorded => ∀ record, recorded = .valid record →
          RecordSound m record ∧ (m.dashboards record.dashboard).Retired

def Stands (m : Machine) (t : Transaction) : Prop :=
  ∃ record, m.recorded = .valid record ∧ record.transaction = t ∧ record.phase = .decommissioned

def InstallerSound (m : Machine) (p : Process) : Installer → Prop
  | .absent | .ended => True
  | .starting t => OwnerRetired m t
  | .admitted t => m.lease = some (.installer p) ∧ OwnerRetired m t
  | .loaded record => m.lease = some (.installer p) ∧ OwnerRetired m record.transaction ∧
      ¬Exchanged m.history record.transaction
  | .aborting t _ => m.lease = some (.installer p) ∧ OwnerRetired m t ∧ ¬Exchanged m.history t
  | .decommissioned record => m.lease = some (.installer p) ∧ OwnerRetired m record.transaction ∧
      ¬Exchanged m.history record.transaction ∧ Stands m record.transaction ∧ m.durable = true
  | .exchanged record => m.lease = some (.installer p) ∧ Stands m record.transaction ∧
      Exchanged m.history record.transaction

structure Invariant (m : Machine) : Prop where
  dashboards : ∀ d, DashboardSound m d (m.dashboards d)
  installers : ∀ p, InstallerSound m p (m.installers p)
  record : ∀ record, m.recorded = .valid record → RecordSound m record ∧
    (record.phase = .handedOff ∨ record.phase = .decommissioned →
      Standing record.transaction m.history)
  origins : ∀ t o, m.origins t = some o → o.2.transaction = t ∧
    o.2.installed.version ≠ o.2.staged.version
  staging : ∀ t b, m.staging t = some b → ¬Exchanged m.history t →
    ∃ o, m.origins t = some o ∧ o.2.staged = b
  exchanged : ∀ t, Exchanged m.history t → ∃ o, m.origins t = some o ∧ m.dashboards o.1 = .ended
  reported : ∀ t, Reported m.history t → OwnerRetired m t ∧
    ∀ record, m.recorded = .valid record → record.transaction ≠ t
  failed : ∀ t version code, .reported t (.failed version code) ∈ m.history →
    ¬Exchanged m.history t
  truthful : Truthful m.history

/-- How a machine changes while no bundles are exchanged. -/
structure Keeps (m m' : Machine) : Prop where
  installed : m'.installed = m.installed
  origins : ∀ t o, m.origins t = some o → m'.origins t = some o
  exchanged : ∀ t, Exchanged m'.history t ↔ Exchanged m.history t
  retired : ∀ d, (m.dashboards d).Retired → (m'.dashboards d).Retired
  ended : ∀ d, m.dashboards d = .ended → m'.dashboards d = .ended

section Keeps

variable {m m' : Machine} {t : Transaction} {record : InstallRecord}

theorem OwnerRetired.keeps (h : OwnerRetired m t) (hk : Keeps m m') : OwnerRetired m' t := by
  obtain ⟨o, ho, hr⟩ := h
  exact ⟨o, hk.origins t o ho, hk.retired o.1 hr⟩

theorem RecordSound.keeps (h : RecordSound m record) (hk : Keeps m m') : RecordSound m' record where
  origin := hk.origins _ _ h.origin
  after he := by
    rw [hk.installed]
    exact h.after ((hk.exchanged _).mp he)
  before he := by
    rw [hk.installed]
    exact h.before (mt (hk.exchanged _).mpr he)
  retired hp := hk.retired _ (h.retired hp)
  ended hp := hk.ended _ (h.ended hp)

theorem DashboardSound.keeps {d s} (h : DashboardSound m d s)
    (hk : Keeps m m') (hl : m.lease = some (.dashboard d) → (∃ i stage, s = .reviewing i stage) →
      m'.lease = some (.dashboard d) := by exact fun hl _ ↦ hl) : DashboardSound m' d s := by
  cases s with
  | absent | ended => trivial
  | launching i | leaving i =>
    have hi : i = m.installed := h
    exact hi.trans hk.installed.symm
  | idle i reviewed staged =>
    cases staged with
    | none =>
      have hi : i = m.installed := h
      exact hi.trans hk.installed.symm
    | some staged => exact ⟨h.1.trans hk.installed.symm, hk.origins _ _ h.2⟩
  | handingOff i staged stage =>
    exact ⟨h.1.trans hk.installed.symm, hk.origins _ _ h.2.1, hk.installed.trans h.2.2⟩
  | reviewing i stage =>
    obtain ⟨hi, hlease, hstage⟩ := h
    refine ⟨hi.trans hk.installed.symm, hl hlease ⟨i, stage, rfl⟩, ?_⟩
    cases stage with
    | admitted => trivial
    | inspected recorded => exact fun record hr ↦ (hstage record hr).keeps hk
    | settled recorded =>
      intro record hr
      exact ⟨(hstage record hr).1.keeps hk, hk.retired _ (hstage record hr).2⟩

def Installer.Holds : Installer → Prop
  | .absent | .ended | .starting _ => False
  | _ => True

def Installer.Relies : Installer → Prop
  | .decommissioned _ | .exchanged _ => True
  | _ => False

theorem InstallerSound.keeps {p s} (h : InstallerSound m p s)
    (hk : Keeps m m') (hr : s.Relies → m'.recorded = m.recorded ∧ m'.durable = m.durable := by
      exact fun _ ↦ ⟨rfl, rfl⟩)
    (hl : m.lease = some (.installer p) → s.Holds → m'.lease = some (.installer p) := by
      exact fun hl _ ↦ hl) : InstallerSound m' p s := by
  have hex (t : Transaction) := not_congr (hk.exchanged t)
  cases s with
  | absent | ended => trivial
  | starting t => exact OwnerRetired.keeps h hk
  | admitted t => exact ⟨hl h.1 trivial, h.2.keeps hk⟩
  | loaded record => exact ⟨hl h.1 trivial, h.2.1.keeps hk, (hex _).mpr h.2.2⟩
  | aborting t code => exact ⟨hl h.1 trivial, h.2.1.keeps hk, (hex _).mpr h.2.2⟩
  | decommissioned record =>
    obtain ⟨hlease, howner, he, hs, hd⟩ := h
    obtain ⟨hrec, hdur⟩ := hr trivial
    refine ⟨hl hlease trivial, howner.keeps hk, (hex _).mpr he, ?_, hdur.trans hd⟩
    rwa [Stands, hrec]
  | exchanged record =>
    obtain ⟨hlease, hs, he⟩ := h
    refine ⟨hl hlease trivial, ?_, (hk.exchanged _).mpr he⟩
    rwa [Stands, (hr trivial).1]

end Keeps

section Primitives

variable {m : Machine} {d p : Process}

theorem Invariant.keeps_setDashboard {s}
    (hr : (m.dashboards d).Retired → s.Retired) (he : m.dashboards d = .ended → s = .ended) :
    Keeps m (m.setDashboard d s) where
  installed := rfl
  origins _ _ h := h
  exchanged _ := .rfl
  retired c h := by
    by_cases hc : c = d
    · subst hc
      simpa [Machine.setDashboard] using hr h
    · simpa [Machine.setDashboard, hc] using h
  ended c h := by
    by_cases hc : c = d
    · subst hc
      simpa [Machine.setDashboard] using he h
    · simpa [Machine.setDashboard, hc] using h

section

variable (h : Invariant m)
include h

theorem Invariant.keeps_record {m' record} (hk : Keeps m m')
    (hr : m.recorded = .valid record) : RecordSound m' record ∧
      (record.phase = .handedOff ∨ record.phase = .decommissioned →
        Standing record.transaction m.history) :=
  ⟨(h.record record hr).1.keeps hk, (h.record record hr).2⟩

theorem Invariant.setDashboard {s} (hr : (m.dashboards d).Retired → s.Retired)
    (he : m.dashboards d = .ended → s = .ended) (hs : DashboardSound m d s) :
    Invariant (m.setDashboard d s) := by
  have hk : Keeps m (m.setDashboard d s) := keeps_setDashboard hr he
  refine ⟨fun c ↦ ?_, fun q ↦ (h.installers q).keeps hk, fun _ ↦ h.keeps_record hk, h.origins,
    h.staging, fun t ht ↦ ?_, fun t ht ↦ ⟨(h.reported t ht).1.keeps hk, (h.reported t ht).2⟩,
    h.failed, h.truthful⟩
  · by_cases hc : c = d
    · subst hc
      simpa [Machine.setDashboard] using hs.keeps hk
    · simpa [Machine.setDashboard, hc] using (h.dashboards c).keeps hk
  · obtain ⟨o, ho, hended⟩ := h.exchanged t ht
    exact ⟨o, ho, hk.ended _ hended⟩

theorem Invariant.setInstaller {s} (hs : InstallerSound m p s) :
    Invariant (m.setInstaller p s) := by
  have hk : Keeps m (m.setInstaller p s) := ⟨rfl, fun _ _ h ↦ h, fun _ ↦ .rfl, fun _ h ↦ h,
    fun _ h ↦ h⟩
  refine { h with
    dashboards c := (h.dashboards c).keeps hk, installers q := ?_, record _ := h.keeps_record hk }
  by_cases hq : q = p
  · subst hq
    simpa [Machine.setInstaller] using hs.keeps hk
  · simpa [Machine.setInstaller, hq] using (h.installers q).keeps hk

/-- The lease may change hands as long as no process is left believing it has it. -/
theorem Invariant.setLease {lease}
    (hd : ∀ c i stage, m.dashboards c = .reviewing i stage → m.lease = some (.dashboard c) →
      lease = some (.dashboard c))
    (hp : ∀ q, (m.installers q).Holds → m.lease = some (.installer q) → lease = some (.installer q)) :
    Invariant { m with lease } := by
  have hk : Keeps m { m with lease } := ⟨rfl, fun _ _ h ↦ h, fun _ ↦ .rfl, fun _ h ↦ h,
    fun _ h ↦ h⟩
  exact { h with
    dashboards c := (h.dashboards c).keeps hk fun hl ⟨i, stage, hs⟩ ↦ hd c i stage hs hl
    installers q := (h.installers q).keeps hk (fun _ ↦ ⟨rfl, rfl⟩) fun hl hh ↦ hp q hh hl
    record _ := h.keeps_record hk }

theorem Invariant.take {holder} (hl : m.lease = none) : Invariant (m.take holder) :=
  h.setLease (fun c i stage _ hc ↦ by simp [hl] at hc) fun q _ hq ↦ by simp [hl] at hq

theorem Invariant.release_dashboard (hd : ∀ i stage, m.dashboards d ≠ .reviewing i stage) :
    Invariant (m.release (.dashboard d)) := by
  refine h.setLease (fun c i stage hc hl ↦ ?_) fun q _ hq ↦ by simp [hq]
  have hne : c ≠ d := fun hcd ↦ hd i stage (hcd ▸ hc)
  simp [hl, hne]

theorem Invariant.release_installer (hp : ¬(m.installers p).Holds) :
    Invariant (m.release (.installer p)) := by
  refine h.setLease (fun c i stage _ hl ↦ by simp [hl]) fun q hq hl ↦ ?_
  have hne : q ≠ p := fun hqp ↦ hp (hqp ▸ hq)
  simp [hl, hne]

theorem Invariant.store {recorded durable e} (hquiet : e.Quiet)
    (hrely : ∀ q, ¬(m.installers q).Relies)
    (hrec : ∀ record, recorded = .valid record → RecordSound m record ∧
      ¬Reported m.history record.transaction ∧
      (record.phase = .handedOff ∨ record.phase = .decommissioned →
        Standing record.transaction (e :: m.history))) :
    Invariant (m.store recorded durable e) := by
  have hex (t : Transaction) : Exchanged (m.store recorded durable e).history t ↔
      Exchanged m.history t := hquiet.exchanged
  have hk : Keeps m (m.store recorded durable e) := ⟨rfl, fun _ _ h ↦ h, hex, fun _ h ↦ h,
    fun _ h ↦ h⟩
  refine ⟨fun c ↦ (h.dashboards c).keeps hk,
    fun q ↦ (h.installers q).keeps hk fun hq ↦ absurd hq (hrely q),
    fun r hr ↦ ⟨(hrec r hr).1.keeps hk, (hrec r hr).2.2⟩, h.origins,
    fun t b hb he ↦ h.staging t b hb (mt (hex t).mpr he), fun t he ↦ h.exchanged t ((hex t).mp he),
    fun t ht ↦ ?_, fun t v c hc ↦ ?_, ⟨hquiet.justified, h.truthful⟩⟩
  · have ht' : Reported m.history t := hquiet.reported.mp ht
    exact ⟨(h.reported t ht').1, fun r hr hrt ↦ (hrec r hr).2.1 (hrt ▸ ht')⟩
  · have hmem : .reported t (.failed v c) ∈ m.history := by
      rcases List.mem_cons.mp hc with rfl | hc
      · exact hquiet.elim
      · exact hc
    exact mt (hex t).mp (h.failed t v c hmem)

theorem Invariant.report {t outcome} (howner : OwnerRetired m t)
    (hrec : ∀ record, m.recorded = .valid record → record.transaction ≠ t)
    (hjust : Justified m.history (.reported t outcome)) :
    Invariant (m.log (.reported t outcome)) := by
  have hex (u : Transaction) : Exchanged (m.log (.reported t outcome)).history u ↔
      Exchanged m.history u := by
    simp [Machine.log, exchanged_cons]
  have hk : Keeps m (m.log (.reported t outcome)) := ⟨rfl, fun _ _ h ↦ h, hex, fun _ h ↦ h,
    fun _ h ↦ h⟩
  refine ⟨fun c ↦ (h.dashboards c).keeps hk, fun q ↦ (h.installers q).keeps hk,
    fun _ ↦ h.keeps_record hk, h.origins, fun u b hb he ↦ h.staging u b hb (mt (hex u).mpr he),
    fun u he ↦ h.exchanged u ((hex u).mp he), fun u hu ↦ ?_, fun u v c hc ↦ ?_,
    ⟨hjust, h.truthful⟩⟩
  · rcases reported_cons.mp hu with ⟨outcome', heq⟩ | hu
    · cases heq
      exact ⟨howner, hrec⟩
    · exact h.reported u hu
  · rw [hex]
    rcases List.mem_cons.mp hc with heq | hc
    · cases heq
      exact hjust
    · exact h.failed u v c hc

theorem Invariant.removeStaging (t : Transaction) : Invariant (m.setStaging t none) := by
  have hk : Keeps m (m.setStaging t none) := ⟨rfl, fun _ _ h ↦ h, fun _ ↦ .rfl, fun _ h ↦ h,
    fun _ h ↦ h⟩
  refine { h with
    dashboards c := (h.dashboards c).keeps hk, installers q := (h.installers q).keeps hk
    record _ := h.keeps_record hk, staging u b hb he := ?_ }
  by_cases hu : u = t
  · subst hu
    simp [Machine.setStaging] at hb
  · exact h.staging u b (by simpa [Machine.setStaging, hu] using hb) he

theorem Invariant.stage {staged} (hfresh : m.origins staged.transaction = none)
    (hversion : staged.installed.version ≠ staged.staged.version) :
    Invariant ((m.setOrigin staged.transaction (d, staged)).setStaging staged.transaction
      (some staged.staged)) := by
  have horigin (u : Transaction) (o) (ho : m.origins u = some o) :
      (m.setOrigin staged.transaction (d, staged)).origins u = some o := by
    have hne : u ≠ staged.transaction := by
      rintro rfl
      simp [hfresh] at ho
    simpa [Machine.setOrigin, hne] using ho
  have hk : Keeps m ((m.setOrigin staged.transaction (d, staged)).setStaging staged.transaction
      (some staged.staged)) := ⟨rfl, horigin, fun _ ↦ .rfl, fun _ h ↦ h, fun _ h ↦ h⟩
  refine ⟨fun c ↦ (h.dashboards c).keeps hk, fun q ↦ (h.installers q).keeps hk,
    fun _ ↦ h.keeps_record hk, fun u o hu ↦ ?_, fun u b hb hu ↦ ?_, fun u hu ↦ ?_,
    fun u hu ↦ ⟨(h.reported u hu).1.keeps hk, (h.reported u hu).2⟩, h.failed, h.truthful⟩
  · by_cases hut : u = staged.transaction
    · subst hut
      obtain rfl : (d, staged) = o := by simpa [Machine.setOrigin, Machine.setStaging] using hu
      exact ⟨rfl, hversion⟩
    · exact h.origins u o (by simpa [Machine.setOrigin, Machine.setStaging, hut] using hu)
  · by_cases hut : u = staged.transaction
    · subst hut
      obtain rfl : staged.staged = b := by simpa [Machine.setStaging] using hb
      exact ⟨(d, staged), by simp [Machine.setOrigin, Machine.setStaging], rfl⟩
    · obtain ⟨o, hou, hb'⟩ := h.staging u b (by simpa [Machine.setOrigin, Machine.setStaging, hut]
        using hb) hu
      exact ⟨o, horigin u o hou, hb'⟩
  · obtain ⟨o, ho, hended⟩ := h.exchanged u hu
    exact ⟨o, horigin u o ho, hended⟩

end

end Primitives

end CfwRs.Updater
