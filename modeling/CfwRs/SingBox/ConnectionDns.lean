import CfwRs.SingBox.DnsPolicy

namespace CfwRs.SingBox

variable {Address C Filter Server : Type}

/-- What a route rule sees of a connection, and the addresses of its name once that was resolved. -/
structure Connection (Address : Type) where
  name : Option (List Char)
  addresses : Option (List Address)

/-- The condition of a rule: what a profile may ask, or what is asked of the name of a connection. -/
inductive RouteCondition (C : Type)
  | always
  | profile (condition : C)
  | domainRegexAny
  | and (first second : RouteCondition C)

inductive RuleAction
  | route (outbound : String)
  | resolve

structure RouteRule (C : Type) where
  condition : RouteCondition C
  action : RuleAction

structure ProfileDns (Filter Server : Type) where
  nameserverPolicy : List DomainDnsPolicy
  fallbackFilter : Option Filter
  directServers : Option (List Server)

namespace ProfileDns

variable (dns : ProfileDns Filter Server) (directOutbound : String)

def hasConnectionRules : Bool := !dns.nameserverPolicy.isEmpty || dns.fallbackFilter.isSome

def resolvesBefore (outbound : String) : Bool :=
  outbound ≠ directOutbound || dns.directServers.isNone

/-- The rules that take the place of one rule. -/
def guarded (rule : RouteRule C) : List (RouteRule C) :=
  match rule.action with
  | .route outbound =>
    if dns.resolvesBefore directOutbound outbound then
      [⟨.and rule.condition .domainRegexAny, .resolve⟩, rule]
    else [rule]
  | .resolve => [rule]

def finalRules (finalOutbound : String) : List (RouteRule C) :=
  if dns.resolvesBefore directOutbound finalOutbound then [⟨.domainRegexAny, .resolve⟩] else []

end ProfileDns

def addConnectionDnsRules (dns : Option (ProfileDns Filter Server)) (rules : List (RouteRule C))
    (directOutbound finalOutbound : String) : List (RouteRule C) :=
  match dns with
  | none => rules
  | some dns =>
    if dns.hasConnectionRules then
      rules.flatMap (dns.guarded directOutbound) ++ dns.finalRules directOutbound finalOutbound
    else rules

namespace Connection

/-- A domain name has a character that `.` matches. -/
def isDomain (c : Connection Address) : Bool := c.name.any (·.any (· ≠ '\n'))

variable (lookup : List Char → List Address)

/-- The answers for a name do not change while a connection is routed. -/
def resolve (c : Connection Address) : Connection Address :=
  match c.name, c.addresses with
  | some name, none => { c with addresses := some (lookup name) }
  | _, _ => c

end Connection

/-- How the conditions of a profile are decided for a connection, by its name and addresses. -/
abbrev Asks (C Address : Type) := C → Option (List Char) → List Address → Bool

variable (asks : Asks C Address)

def RouteCondition.holds (c : Connection Address) : RouteCondition C → Bool
  | always => true
  | profile condition => asks condition c.name (c.addresses.getD [])
  | domainRegexAny => c.isDomain
  | and first second => first.holds c && second.holds c

/-- Where a connection goes, as what, and by which rules it was resolved. -/
structure Routed (C Address : Type) where
  outbound : String
  connection : Connection Address
  resolvedBy : List (RouteCondition C)

variable (lookup : List Char → List Address) (finalOutbound : String)

/-- The first rule that matches and routes decides. -/
def evaluate : List (RouteRule C) → Connection Address → Routed C Address
  | [], c => ⟨finalOutbound, c, []⟩
  | rule :: rules, c =>
    if rule.condition.holds asks c then
      match rule.action with
      | .route outbound => ⟨outbound, c, []⟩
      | .resolve =>
        let rest := evaluate rules (c.resolve lookup)
        { rest with resolvedBy := rule.condition :: rest.resolvedBy }
    else evaluate rules c

/-- More addresses never make the condition fail. -/
def RouteCondition.IsMonotone (condition : RouteCondition C) : Prop :=
  ∀ c : Connection Address, condition.holds asks c →
    ∀ addresses, c.addresses.getD [] ⊆ addresses →
      condition.holds asks { c with addresses := some addresses }

variable {asks lookup finalOutbound}
variable {dns : ProfileDns Filter Server} {rules : List (RouteRule C)} {directOutbound : String}
  {c : Connection Address}

theorem RouteCondition.IsMonotone.resolve {condition : RouteCondition C}
    (h : condition.IsMonotone asks) (hc : condition.holds asks c) :
    condition.holds asks (c.resolve lookup) := by
  unfold Connection.resolve
  split
  · next hnone => exact h c hc _ (by simp [hnone])
  · exact hc

theorem Connection.resolve_of_isDomain (h : c.isDomain) : (c.resolve lookup).addresses ≠ none := by
  obtain ⟨_ | name, _ | addresses⟩ := c
  · simp [isDomain] at h
  · simp [isDomain] at h
  · simp [resolve]
  · simp [resolve]

/-- What the inserted rules do to the way of a connection. -/
structure Guarded (dns : ProfileDns Filter Server) (directOutbound : String) (domain : Bool)
    (before after : Routed C Address) : Prop where
  outbound : after.outbound = before.outbound
  resolved : domain → dns.resolvesBefore directOutbound after.outbound →
    after.connection.addresses ≠ none
  kept : dns.resolvesBefore directOutbound after.outbound = false →
    after.resolvedBy = before.resolvedBy

theorem Connection.isDomain_resolve : (c.resolve lookup).isDomain = c.isDomain := by
  unfold resolve
  split <;> rfl

theorem guarded_final : Guarded dns directOutbound c.isDomain
    (evaluate asks lookup finalOutbound [] c)
    (evaluate asks lookup finalOutbound (dns.finalRules directOutbound finalOutbound) c) := by
  unfold ProfileDns.finalRules
  split
  · next h =>
    by_cases hdomain : c.isDomain
    · simp only [evaluate, RouteCondition.holds, hdomain, if_true]
      exact ⟨rfl, fun _ _ ↦ c.resolve_of_isDomain hdomain, fun hkept ↦ absurd h (by simp [hkept])⟩
    · simp only [evaluate, RouteCondition.holds, hdomain]
      exact ⟨rfl, nofun, fun _ ↦ rfl⟩
  · next h => exact ⟨rfl, fun _ hbefore ↦ absurd hbefore h, fun _ ↦ rfl⟩

theorem guarded_route {rule : RouteRule C} {outbound} {rest}
    (haction : rule.action = .route outbound) (hmono : rule.condition.IsMonotone asks)
    (hc : rule.condition.holds asks c) : Guarded dns directOutbound c.isDomain
      (⟨outbound, c, []⟩ : Routed C Address)
      (evaluate asks lookup finalOutbound (dns.guarded directOutbound rule ++ rest) c) := by
  simp only [ProfileDns.guarded, haction]
  split
  · next h =>
    by_cases hdomain : c.isDomain
    · simp only [List.cons_append, evaluate, RouteCondition.holds, hc, hdomain, haction,
        hmono.resolve hc, Bool.and_self, if_true]
      exact ⟨rfl, fun _ _ ↦ c.resolve_of_isDomain hdomain, fun hkept ↦ absurd h (by simp [hkept])⟩
    · simp only [List.cons_append, evaluate, RouteCondition.holds, hc, hdomain, haction]
      exact ⟨rfl, nofun, fun _ ↦ rfl⟩
  · next h =>
    simp only [List.cons_append, evaluate, hc, haction]
    exact ⟨rfl, fun _ hbefore ↦ absurd hbefore h, fun _ ↦ rfl⟩

/-- A rule that does not match is not resolved for either. -/
theorem evaluate_guarded_of_not_holds {rule rest} (hc : ¬rule.condition.holds asks c) :
    evaluate asks lookup finalOutbound (dns.guarded directOutbound rule ++ rest) c =
      evaluate asks lookup finalOutbound rest c := by
  unfold ProfileDns.guarded
  split
  · split <;> simp [evaluate, RouteCondition.holds, hc]
  · simp [evaluate, hc]

theorem guarded_rules
    (hmono : ∀ rule ∈ rules, rule.action ≠ .resolve → rule.condition.IsMonotone asks) :
    Guarded dns directOutbound c.isDomain (evaluate asks lookup finalOutbound rules c)
      (evaluate asks lookup finalOutbound (rules.flatMap (dns.guarded directOutbound) ++
        dns.finalRules directOutbound finalOutbound) c) := by
  induction rules generalizing c with
  | nil => exact guarded_final
  | cons rule rules ih =>
    rw [List.forall_mem_cons] at hmono
    rw [List.flatMap_cons, List.append_assoc]
    by_cases hc : rule.condition.holds asks c
    · cases haction : rule.action with
      | route outbound =>
        rw [evaluate, if_pos hc, haction]
        exact guarded_route haction (hmono.1 (by simp [haction])) hc
      | resolve =>
        have h := ih (c := c.resolve lookup) hmono.2
        simp only [ProfileDns.guarded, haction, List.cons_append, List.nil_append, evaluate, hc,
          if_true]
        exact ⟨h.outbound, c.isDomain_resolve ▸ h.resolved, fun hkept ↦ by rw [h.kept hkept]⟩
    · rw [evaluate_guarded_of_not_holds hc, evaluate, if_neg hc]
      exact ih hmono.2

/-- The rules for the DNS of connections change no route. Where a profile has them, a domain that does
not go to the direct outbound's own resolvers is resolved, and one that does is resolved by no more
rules than before. -/
theorem connection_dns_keeps_routes (dns : Option (ProfileDns Filter Server))
    (rules : List (RouteRule C)) (directOutbound finalOutbound : String)
    (asks : Asks C Address) (lookup : List Char → List Address)
    (hmono : ∀ rule ∈ rules, rule.action ≠ .resolve → rule.condition.IsMonotone asks)
    (c : Connection Address) :
    let before := evaluate asks lookup finalOutbound rules c
    let after := evaluate asks lookup finalOutbound
      (addConnectionDnsRules dns rules directOutbound finalOutbound) c
    after.outbound = before.outbound ∧ ∀ profile ∈ dns,
      (profile.hasConnectionRules → c.isDomain →
        (after.outbound ≠ directOutbound ∨ profile.directServers = none) →
          after.connection.addresses ≠ none) ∧
      (after.outbound = directOutbound → profile.directServers ≠ none →
        after.resolvedBy = before.resolvedBy) := by
  cases dns with
  | none => exact ⟨rfl, nofun⟩
  | some dns =>
    by_cases hrules : dns.hasConnectionRules
    · have h : Guarded dns directOutbound c.isDomain (evaluate asks lookup finalOutbound rules c) _ :=
        guarded_rules hmono
      rw [addConnectionDnsRules, if_pos hrules]
      refine ⟨h.outbound, ?_⟩
      rintro _ ⟨⟩
      refine ⟨fun _ hdomain hend ↦ h.resolved hdomain ?_, fun hend hservers ↦ h.kept ?_⟩
      · simpa [ProfileDns.resolvesBefore] using hend
      · simpa [ProfileDns.resolvesBefore, hend, Option.isSome_iff_ne_none] using hservers
    · rw [addConnectionDnsRules, if_neg hrules]
      refine ⟨rfl, ?_⟩
      rintro _ ⟨⟩
      exact ⟨fun h ↦ absurd h hrules, fun _ _ ↦ rfl⟩

def sampleDns : ProfileDns Unit Unit := ⟨[], some (), some []⟩

def sampleConnection : Connection Unit := ⟨some ['a'], none⟩

theorem proxied_domain_resolved : (evaluate (fun _ _ _ ↦ true) (fun _ ↦ []) "direct"
      (addConnectionDnsRules (some sampleDns) [⟨.profile (), .route "proxy"⟩] "direct" "direct")
      sampleConnection).connection.addresses ≠ none :=
  ((connection_dns_keeps_routes (some sampleDns) [⟨.profile (), .route "proxy"⟩] "direct" "direct"
    (fun _ _ _ ↦ true) (fun _ ↦ []) (by simp [RouteCondition.IsMonotone, RouteCondition.holds])
    sampleConnection).2 sampleDns rfl).1 rfl rfl (.inl (by decide))

/-- A profile without DNS of its own has no such rules, and its domains are not resolved. -/
theorem proxied_domain_unresolved :
    let after := evaluate (C := Unit) (fun _ _ _ ↦ true) (fun _ ↦ []) "proxy"
      (addConnectionDnsRules (none : Option (ProfileDns Unit Unit)) [] "direct" "proxy")
      sampleConnection
    sampleConnection.isDomain ∧ after.outbound ≠ "direct" ∧ after.connection.addresses = none := by
  decide

end CfwRs.SingBox
