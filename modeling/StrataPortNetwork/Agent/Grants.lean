import StrataPortNetwork.Agent.Sample

/-! # Delegation chains

In every reachable state the parent of a registered grant is registered, was active when
it delegated, and bounds the grant's level, capabilities, message types and budgets; the
chains are finite, and a revoked parent has revoked children. Permissions are compared by
no step.
-/
namespace Agent
open Js Transition
variable {date : DateApi}

/-! ## Containment is transitive -/

theorem subset_trans {a b c : Option Json} (hab : subset a b = true) (hbc : subset b c = true) : subset a c = true := by
  simp only [subset, List.all_eq_true, List.contains_iff_exists_mem_beq] at *
  intro v hv
  obtain ⟨w, hw, hvw⟩ := hab v hv
  obtain ⟨u, hu, hwu⟩ := hbc w hw
  exact ⟨u, hu, PartialEquivBEq.trans hvw hwu⟩

theorem levelAbove_trans {a b c : Option Json} (hb : oneOf b AUTHORITY_LEVELS = true) (hab : levelAbove a b = false)
    (hbc : levelAbove b c = false) : levelAbove a c = false := by
  obtain ⟨m, hm⟩ : ∃ m, authorityOrder b = some m := by
    simpa [authorityOrder, oneOf, ← Option.isSome_iff_exists, List.findIdx?_isSome] using hb
  cases ha : authorityOrder a with
  | none => simp [levelAbove, ha]
  | some n =>
    cases hc : authorityOrder c with
    | none => simp [levelAbove, hc]
    | some k =>
      simp only [levelAbove, ha, hm, hc, Option.any_some, decide_eq_false_iff_not, not_lt] at *
      omega

/-! ## Validated grants -/

/-- What the validator establishes of a grant. -/
structure GrantShape (date : DateApi) (grant : Json) : Prop where
  level : oneOf (grant.get "authority_level") AUTHORITY_LEVELS = true
  parent : nullableReference (grant.get "parent_grant_ref") (some grantIdPattern) = true
  status : oneOf (grant.get "status") ["active", "suspended", "revoked"] = true
  issuedAt : ∃ t, parseDate date (grant.get "issued_at") = some t
  expiresAt : ∃ t, parseDate date (grant.get "expires_at") = some t

theorem validateAuthorityGrant_ok {grant : Json} (h : validateAuthorityGrant date grant = .ok ()) :
    GrantShape date grant := by
  simp only [validateAuthorityGrant, timestamp, bind_eq_ok, require_eq_ok, orThrow_eq_ok, Bool.and_eq_true] at h
  obtain ⟨-, -, -, -, -, -, -, -, -, -, -, -, -, ⟨⟨⟨⟨⟨⟨hlevel, -⟩, -⟩, -⟩, -⟩, hparent⟩, hstatus⟩, issuedAt, hissued,
    expiresAt, hexpires, -⟩ := h
  exact ⟨hlevel, hparent, hstatus, ⟨issuedAt, hissued⟩, ⟨expiresAt, hexpires⟩⟩

theorem Grant.shape (grant : Grant date) : GrantShape date grant.value := validateAuthorityGrant_ok grant.valid

namespace Gateway
variable {g : Gateway date}

theorem Within.trans {grant middle ancestor : Grant date} (h : Within grant middle) (h' : Within middle ancestor) :
    Within grant ancestor :=
  ⟨levelAbove_trans middle.shape.level h.level h'.level, subset_trans h.capabilityIds h'.capabilityIds,
    subset_trans h.messageTypes h'.messageTypes, subset_trans h.budgetRefs h'.budgetRefs⟩

/-! ## The invariant -/

/-- The parent of a registered grant. -/
def parentOf (g : Gateway date) (k : JsString) : Option JsString := (g.grants.get k).bind Grant.parentRef

/-- A registered parent, next to its child. -/
structure Link (grant parent : Grant date) : Prop where
  within : Within grant parent
  delegated : parent.hasStatus "active" = true ∨ parent.hasStatus "revoked" = true
  down : parent.hasStatus "revoked" = true → grant.hasStatus "revoked" = true

structure Linked (g : Gateway date) : Prop where
  parents : ∀ k grant ref, g.grants.get k = some grant → grant.parentRef = some ref →
    ∃ parent, g.grants.get ref = some parent ∧ Link grant parent
  acyclic : Forest.Acyclic g.parentOf

theorem start_linked (refs : JsMap JsString (List Json)) (guard : ReplayGuard) : Linked (start date refs guard) := by
  have hnone : ∀ k, (start date refs guard).grants.get k = none := fun k => Registry.get_empty k
  constructor
  · intro k grant ref hget
    rw [hnone] at hget
    simp at hget
  · intro k hk
    obtain ⟨ref, href, -⟩ := Forest.above_cases hk
    rw [parentOf, hnone] at href
    simp at href

/-! ## One step -/

/-- A grant as it was, or in its revoked form. -/
def Revised (grant grant' : Grant date) : Prop :=
  grant' = grant ∨ ∃ effectiveAt, grant'.value = revokedValue grant.value effectiveAt

theorem Revised.get {grant grant' : Grant date} (h : Revised grant grant') {name : String} (hstatus : name ≠ "status")
    (hrevokedAt : name ≠ "revoked_at") : grant'.value.get name = grant.value.get name := by
  rcases h with rfl | ⟨effectiveAt, h⟩
  · rfl
  · rw [h, get_revokedValue _ _ hstatus hrevokedAt]

theorem Revised.parentRef {grant grant' : Grant date} (h : Revised grant grant') : grant'.parentRef = grant.parentRef := by
  rw [Grant.parentRef, Grant.parentRef, h.get (by decide) (by decide)]

theorem Revised.revoked {grant grant' : Grant date} (h : Revised grant grant')
    (hrevoked : grant.hasStatus "revoked" = true) : grant'.hasStatus "revoked" = true := by
  rcases h with rfl | ⟨effectiveAt, h⟩
  · exact hrevoked
  · exact revokedValue_revoked h

theorem Revised.within {grant grant' parent parent' : Grant date} (hg : Revised grant grant')
    (hp : Revised parent parent') (h : Within grant parent) : Within grant' parent' := by
  constructor
  · rw [hg.get (by decide) (by decide), hp.get (by decide) (by decide)]
    exact h.level
  · rw [hg.get (by decide) (by decide), hp.get (by decide) (by decide)]
    exact h.capabilityIds
  · rw [hg.get (by decide) (by decide), hp.get (by decide) (by decide)]
    exact h.messageTypes
  · rw [hg.get (by decide) (by decide), hp.get (by decide) (by decide)]
    exact h.budgetRefs

section
variable {op : Operation} {g' : Gateway date} {k : JsString}

/-- A registered grant stays registered. -/
theorem GrantStep.keeps (h : GrantStep g op g') {grant : Grant date} (hget : g.grants.get k = some grant) :
    ∃ grant', g'.grants.get k = some grant' ∧ Revised grant grant' := by
  cases h with
  | same frame => exact ⟨grant, (frame k).trans hget, Or.inl rfl⟩
  | registers new registration _ hnew write =>
    have hne : new.grantId ≠ k := by
      rintro rfl
      rw [hget] at hnew
      simp at hnew
    exact ⟨grant, by rw [write, if_neg hne, hget], Or.inl rfl⟩
  | revokes affected effectiveAt cascade =>
    by_cases hk : k ∈ affected
    · obtain ⟨old, new, hold, hnew, hvalue⟩ := cascade.inside k hk
      rw [hget] at hold
      cases Option.some.inj hold
      exact ⟨new, hnew, Or.inr ⟨effectiveAt, hvalue⟩⟩
    · exact ⟨grant, (cascade.outside k hk).trans hget, Or.inl rfl⟩

/-- Every grant after a step was there before, or is the one registered. -/
theorem GrantStep.origin (h : GrantStep g op g') {grant' : Grant date} (hget : g'.grants.get k = some grant') :
    (∃ grant, g.grants.get k = some grant ∧ Revised grant grant') ∨
      ∃ value, op = .registerAuthorityGrant value ∧ Registration g value grant' ∧
        (∃ result g'', g.registerAuthorityGrant value = .ok (result, g'')) ∧
        ∀ ref parent, g.grants.get ref = some parent → g'.grants.get ref = some parent := by
  cases hold : g.grants.get k with
  | some grant =>
    obtain ⟨kept, hkept, hrevised⟩ := h.keeps hold
    rw [hget] at hkept
    cases Option.some.inj hkept
    exact Or.inl ⟨grant, rfl, hrevised⟩
  | none =>
    cases h with
    | same frame => simp [frame k, hold] at hget
    | @registers value _ new registration returns hnew write =>
      rw [write, hold] at hget
      split at hget
      · cases Option.some.inj hget
        refine Or.inr ⟨value, rfl, registration, returns, ?_⟩
        intro ref parent hparent
        have hne : grant'.grantId ≠ ref := by
          rintro rfl
          rw [hparent] at hnew
          simp at hnew
        rw [write, if_neg hne, hparent]
      · simp at hget
    | revokes affected effectiveAt cascade =>
      by_cases hk : k ∈ affected
      · obtain ⟨old, -, hfound, -⟩ := cascade.inside k hk
        simp [hold] at hfound
      · simp [cascade.outside k hk, hold] at hget

/-- A step revokes the registered children of what it revokes. -/
theorem GrantStep.down (h : GrantStep g op g') {ref : JsString} {grant grant' parent parent' : Grant date}
    (hgrant : g.grants.get k = some grant) (hgrant' : g'.grants.get k = some grant')
    (hparent : g.grants.get ref = some parent) (hparent' : g'.grants.get ref = some parent')
    (href : grant.parentRef = some ref)
    (hdown : parent.hasStatus "revoked" = true → grant.hasStatus "revoked" = true)
    (hrevoked : parent'.hasStatus "revoked" = true) : grant'.hasStatus "revoked" = true := by
  obtain ⟨kept, hkept, hrevised⟩ := h.keeps hgrant
  rw [hgrant'] at hkept
  cases Option.some.inj hkept
  by_cases hbefore : parent.hasStatus "revoked" = true
  · exact hrevised.revoked (hdown hbefore)
  · cases h with
    | same frame =>
      rw [frame, hparent] at hparent'
      cases Option.some.inj hparent'
      exact absurd hrevoked hbefore
    | registers new registration _ hnew write =>
      have hne : new.grantId ≠ ref := by
        rintro rfl
        rw [hparent] at hnew
        simp at hnew
      rw [write, if_neg hne, hparent] at hparent'
      cases Option.some.inj hparent'
      exact absurd hrevoked hbefore
    | revokes affected effectiveAt cascade =>
      have hin : ref ∈ affected := by
        by_contra hout
        rw [cascade.outside ref hout, hparent] at hparent'
        cases Option.some.inj hparent'
        exact hbefore hrevoked
      by_cases hgone : grant.hasStatus "revoked" = true
      · exact hrevised.revoked hgone
      · have hk := cascade.closed k grant ref hgrant (by simpa using hgone) href hin
        obtain ⟨old, new, -, hnew, hvalue⟩ := cascade.inside k hk
        rw [hgrant'] at hnew
        cases Option.some.inj hnew
        exact revokedValue_revoked hvalue

end

theorem parentOf_eq_some {ref k : JsString} :
    g.parentOf k = some ref ↔ ∃ grant, g.grants.get k = some grant ∧ grant.parentRef = some ref :=
  Option.bind_eq_some_iff

/-- A step keeps the parent of every grant it does not register. -/
theorem GrantStep.parentOf_eq {op : Operation} {g' : Gateway date} (h : GrantStep g op g') {k : JsString}
    (hknown : g.grants.get k = none → g'.grants.get k = none) : g'.parentOf k = g.parentOf k := by
  cases hget : g.grants.get k with
  | none => rw [parentOf, parentOf, hget, hknown hget]
  | some grant =>
    obtain ⟨grant', hget', hrevised⟩ := h.keeps hget
    rw [parentOf, parentOf, hget, hget', Option.bind_some, Option.bind_some, hrevised.parentRef]

/-- After a step, the parent of a grant was registered before it, next to the grant. -/
theorem step_parents (h : Linked g) (op : Operation) {k ref : JsString} {grant' : Grant date}
    (hget' : (g.step op).grants.get k = some grant') (href : grant'.parentRef = some ref) :
    ∃ parent parent', g.grants.get ref = some parent ∧ (g.step op).grants.get ref = some parent' ∧
      Link grant' parent' := by
  have hstep := step_grants g op
  rcases hstep.origin hget' with ⟨grant, hget, hrevised⟩ | ⟨value, -, registration, -, hframe⟩
  · rw [hrevised.parentRef] at href
    obtain ⟨parent, hparent, hlink⟩ := h.parents k grant ref hget href
    obtain ⟨parent', hparent', hrevised'⟩ := hstep.keeps hparent
    refine ⟨parent, parent', hparent, hparent', Revised.within hrevised hrevised' hlink.within, ?_, ?_⟩
    · rcases hrevised' with rfl | ⟨effectiveAt, hvalue⟩
      · exact hlink.delegated
      · exact Or.inr (revokedValue_revoked hvalue)
    · exact hstep.down hget hget' hparent hparent' href hlink.down
  · obtain ⟨parent, hparent, hactive, hwithin⟩ := registration.delegation ref href
    refine ⟨parent, parent, hparent, hframe ref parent hparent, hwithin, Or.inl hactive, ?_⟩
    intro hrevoked
    rw [not_active_of_revoked hrevoked] at hactive
    simp at hactive

theorem step_linked (h : Linked g) (op : Operation) : Linked (g.step op) := by
  have hstep := step_grants g op
  have hsame : (∀ k, g.grants.get k = none → (g.step op).grants.get k = none) →
      Forest.Acyclic (g.step op).parentOf := by
    intro hknown
    have heq : (g.step op).parentOf = g.parentOf := funext fun k => hstep.parentOf_eq (hknown k)
    rw [heq]
    exact h.acyclic
  constructor
  · intro k grant' ref hget' href
    obtain ⟨-, parent', -, hparent', hlink⟩ := step_parents h op hget' href
    exact ⟨parent', hparent', hlink⟩
  · cases hcase : hstep with
    | same frame => exact hsame fun k hk => (frame k).trans hk
    | revokes affected effectiveAt cascade =>
      refine hsame fun k hk => ?_
      by_cases hin : k ∈ affected
      · obtain ⟨old, -, hfound, -⟩ := cascade.inside k hin
        simp [hk] at hfound
      · exact (cascade.outside k hin).trans hk
    | registers grant registration _ hnew write =>
      refine Forest.acyclic_extend (n := grant.grantId) h.acyclic (fun k hk => hstep.parentOf_eq fun hnone => ?_) ?_
      · rw [write, if_neg (Ne.symm hk), hnone]
      · intro k hk
        obtain ⟨grant', hget', href⟩ := parentOf_eq_some.mp hk
        obtain ⟨parent, -, hparent, -⟩ := step_parents h _ hget' href
        rw [hnew] at hparent
        simp at hparent

/-! ## Attenuation -/

/-- The grant's authority is contained in its ancestor's, in every dimension. -/
structure Attenuated (grant ancestor : Grant date) : Prop where
  within : Within grant ancestor
  permissions : subset (grant.value.get "permissions") (ancestor.value.get "permissions") = true

theorem Attenuated.trans {grant middle ancestor : Grant date} (h : Attenuated grant middle)
    (h' : Attenuated middle ancestor) : Attenuated grant ancestor :=
  ⟨h.within.trans h'.within, subset_trans h.permissions h'.permissions⟩

/-- No chain of parents closes, and every grant is contained in each of its ancestors. -/
def Attenuating (g : Gateway date) : Prop :=
  Forest.Acyclic g.parentOf ∧ ∀ k grant a, g.grants.get k = some grant → Forest.Above g.parentOf k a →
    ∃ ancestor, g.grants.get a = some ancestor ∧ Attenuated grant ancestor

/-- A delegated grant that gets registered lists permissions of its parent only. -/
def DelegatesItsPermissions (g : Gateway date) : Operation → Prop
  | .registerAuthorityGrant value => ∀ result g', g.registerAuthorityGrant value = .ok (result, g') →
    ∀ parent, g.grantOf (value.get "parent_grant_ref") = some parent →
      subset (value.get "permissions") (parent.value.get "permissions") = true
  | _ => True

/-- Each grant lists permissions of its parent only. -/
def PermissionsLinked (g : Gateway date) : Prop :=
  ∀ k grant ref parent, g.grants.get k = some grant → grant.parentRef = some ref → g.grants.get ref = some parent →
    subset (grant.value.get "permissions") (parent.value.get "permissions") = true

theorem attenuating_iff (h : Linked g) : Attenuating g ↔ PermissionsLinked g := by
  constructor
  · intro hall k grant ref parent hget href hparent
    have habove : Forest.Above g.parentOf k ref := Relation.TransGen.single (parentOf_eq_some.mpr ⟨grant, hget, href⟩)
    obtain ⟨ancestor, hancestor, hattenuated⟩ := hall.2 k grant ref hget habove
    rw [hparent] at hancestor
    cases Option.some.inj hancestor
    exact hattenuated.permissions
  · intro hlinked
    refine ⟨h.acyclic, fun k grant a hget habove => ?_⟩
    have hlink : ∀ k a, g.parentOf k = some a → ∀ grant, g.grants.get k = some grant →
        ∃ ancestor, g.grants.get a = some ancestor ∧ Attenuated grant ancestor := by
      intro k a hk grant hget
      obtain ⟨grant', hget', href⟩ := parentOf_eq_some.mp hk
      rw [hget] at hget'
      cases Option.some.inj hget'
      obtain ⟨parent, hparent, hlink⟩ := h.parents k grant a hget href
      exact ⟨parent, hparent, hlink.within, hlinked k grant a parent hget href hparent⟩
    refine Forest.above_of_links (r := fun k a => ∀ grant, g.grants.get k = some grant →
      ∃ ancestor, g.grants.get a = some ancestor ∧ Attenuated grant ancestor) ?_ hlink habove grant hget
    intro a b c hab hbc grant hget
    obtain ⟨middle, hmiddle, hattenuated⟩ := hab grant hget
    obtain ⟨ancestor, hancestor, hattenuated'⟩ := hbc middle hmiddle
    exact ⟨ancestor, hancestor, hattenuated.trans hattenuated'⟩

/-- A step keeps the permissions linked exactly when it delegates none beyond the parent's. -/
theorem step_permissionsLinked (h : Linked g) (hp : PermissionsLinked g) (op : Operation) :
    PermissionsLinked (g.step op) ↔ DelegatesItsPermissions g op := by
  have hstep := step_grants g op
  constructor
  · intro hafter
    cases op with
    | registerAuthorityGrant value =>
      intro result g' hok parent hparent
      obtain ⟨grant, registration, -, rfl⟩ := registerAuthorityGrant_ok hok
      have hnext : g.step (.registerAuthorityGrant value) = { g with grants := g.grants.put grant } := by
        rw [step, hok]
        rfl
      obtain ⟨ref, href, hget⟩ := Option.bind_eq_some_iff.mp hparent
      obtain ⟨parent', hparent', hrevised⟩ := hstep.keeps hget
      have hgrant : (g.step (.registerAuthorityGrant value)).grants.get grant.grantId = some grant := by
        rw [hnext]
        simp
      rw [← registration.value_eq] at href ⊢
      rw [← hrevised.get (by decide) (by decide)]
      exact hafter _ grant ref parent' hgrant href hparent'
    | _ => trivial
  · intro hok k grant' ref parent' hget' href hparent'
    rcases hstep.origin hget' with ⟨grant, hget, hrevised⟩ | ⟨value, rfl, registration, ⟨result, g'', hreturns⟩, -⟩
    · obtain ⟨parent, hparent, -⟩ := h.parents k grant ref hget (hrevised.parentRef ▸ href)
      obtain ⟨kept, hkept, hrevised'⟩ := hstep.keeps hparent
      rw [hparent'] at hkept
      cases Option.some.inj hkept
      rw [hrevised.get (by decide) (by decide), hrevised'.get (by decide) (by decide)]
      exact hp k grant ref parent hget (hrevised.parentRef ▸ href) hparent
    · obtain ⟨parent, hparent, -, -⟩ := registration.delegation ref href
      obtain ⟨kept, hkept, hrevised'⟩ := hstep.keeps hparent
      rw [hparent'] at hkept
      cases Option.some.inj hkept
      rw [hrevised'.get (by decide) (by decide), registration.value_eq]
      refine hok result g'' hreturns parent ?_
      rw [← registration.value_eq]
      exact Option.bind_eq_some_iff.mpr ⟨ref, href, hparent⟩

/-- Delegation attenuates in every state of a run exactly when each delegated grant the run
registers lists permissions of its parent only. -/
theorem delegation_attenuates (refs : JsMap JsString (List Json)) (guard : ReplayGuard) (ops : List Operation) :
    Always step Attenuating (start date refs guard) ops ↔
      Steps step DelegatesItsPermissions (start date refs guard) ops := by
  refine @always_iff_steps _ _ _ Linked _ _ (fun g op h => step_linked h op) ?_ _ (start_linked refs guard) ?_ ops
  · intro g op hlinked hattenuating
    rw [attenuating_iff (step_linked hlinked op)]
    exact step_permissionsLinked hlinked ((attenuating_iff hlinked).mp hattenuating) op
  · rw [attenuating_iff (start_linked refs guard)]
    intro k grant ref parent hget
    rw [start, Registry.get_empty] at hget
    simp at hget

end Gateway

/-- The middle grant lists a permission that the root grant, its parent, does not. -/
theorem Sample.permissions_escalate :
    ¬ Gateway.Attenuating (run Gateway.step (Gateway.start Sample.isoDate Sample.references Sample.guard)
      (Sample.staffing ++ Sample.delegating)) := by
  rw [Sample.run_delegating]
  rintro ⟨-, hall⟩
  have hparent : Sample.delegated.parentOf Sample.middle.grantId = some Sample.root.grantId :=
    Gateway.parentOf_eq_some.mpr ⟨_, Sample.get_middle, Sample.parentRef_middle⟩
  obtain ⟨ancestor, hancestor, hattenuated⟩ := hall _ _ _ Sample.get_middle (Relation.TransGen.single hparent)
  rw [Sample.get_root] at hancestor
  cases Option.some.inj hancestor
  have hlists := hattenuated.permissions
  revert hlists
  decide +kernel

end Agent
