import StrataPortNetwork.Superstructure.Authenticity

/-! # What a split route discloses to a target

Two split envelopes that agree outside the payload entries hidden from a target lead to the
same call for that target. The child keeps the visible entries only, and its hash and its
signature are computed from it.
-/
namespace Superstructure
open Py
open Js (JsMap)

/-- The dict is the same, whatever the order of its entries. -/
def SameDict (d d' : Dict) : Prop := ∀ key, d.get key = d'.get key

namespace ProductionEnvelope

/-- The envelopes differ in payload entries, payload hash and signatures at most, and not in an
entry that the target may see. -/
def AgreeFor (index : ℕ) (e e' : ProductionEnvelope) : Prop :=
  e' = { e with payload := e'.payload, payloadHash := e'.payloadHash, signatures := e'.signatures } ∧
    ∀ key ∈ RouteExecutionEngine.allowed e index, e.payload.get key = e'.payload.get key

/-- The envelopes are the same, up to the order of the entries of the payload. -/
def Same (e e' : ProductionEnvelope) : Prop := e' = { e with payload := e'.payload } ∧ SameDict e.payload e'.payload

end ProductionEnvelope

theorem canonicalText_ofDict {d d' : Dict} (h : SameDict d d') :
    canonicalText (.ofDict d) = canonicalText (.ofDict d') :=
  canonicalText_dict_congr (JsMap.perm_of_get_eq h) d.nodup_keys

theorem ProductionEnvelope.Same.canonicalJson_unsigned {e e' : ProductionEnvelope} (h : e.Same e') :
    canonicalJson e.unsigned = canonicalJson e'.unsigned := by
  obtain ⟨hfields, hpayload⟩ := h
  rw [hfields, canonicalJson, canonicalJson]
  congr 1
  exact canonicalText_dict_entry (e.unsigned.items.take 24) (e.unsigned.items.drop 25) (canonicalText_ofDict hpayload)

namespace RouteExecutionEngine
variable {platform : Platform} {engine engine' : RouteExecutionEngine}

theorem payloadFor_same {e e' : ProductionEnvelope} {index : ℕ} (hmode : e.routeMode = .split)
    (hagree : ProductionEnvelope.AgreeFor index e e') : SameDict (payloadFor e index) (payloadFor e' index) := by
  obtain ⟨hfields, hvisible⟩ := hagree
  have hallowed : allowed e' index = allowed e index := by rw [hfields]; rfl
  have hmode' : e'.routeMode = .split := by rw [hfields]; exact hmode
  intro key
  rw [payloadFor, payloadFor, if_pos hmode, if_pos hmode', hallowed, JsMap.get_restrict, JsMap.get_restrict]
  by_cases hkey : key ∈ allowed e index
  · rw [hvisible key hkey]
  · simp [hkey]

/-- The children of a target are the same. -/
theorem child_same (hsigner : engine.signer.ReadsJson) (hsame : engine'.signer = engine.signer)
    {e e' c c' : ProductionEnvelope} {index : ℕ} {target : Str} (hmode : e.routeMode = .split)
    (hagree : ProductionEnvelope.AgreeFor index e e') (hc : engine.child platform e index target = .ok c)
    (hc' : engine'.child platform e' index target = .ok c') : c.Same c' := by
  obtain ⟨hash, signature, hhash, rfl, hsign⟩ := child_spec hc
  obtain ⟨hash', signature', hhash', rfl, hsign'⟩ := child_spec hc'
  have hpayload := payloadFor_same hmode hagree
  have hhashes : hash' = hash := by
    simp only [digest, canonicalJson, canonicalText_ofDict hpayload] at hhash
    exact Except.ok.inj (hhash'.symm.trans hhash)
  have hfields := hagree.1
  have hunsigned : ProductionEnvelope.Same
      { e with
        destinationPort := target, payload := payloadFor e index, payloadHash := hash
        transactionId := e.transactionId ++ str ":" ++ target, signatures := [signature] }
      { e' with
        destinationPort := target, payload := payloadFor e' index, payloadHash := hash'
        transactionId := e'.transactionId ++ str ":" ++ target, signatures := [signature] } :=
    ⟨by rw [hhashes, hfields], hpayload⟩
  have hsignatures : signature' = signature := by
    have hjson := hsigner.sign_congr hunsigned.canonicalJson_unsigned
    rw [hsame] at hsign'
    exact Except.ok.inj (hsign'.symm.trans (hjson.symm.trans hsign))
  rw [hsignatures]
  exact hunsigned

/-- Both calls hand over the same. -/
def SameCall (h h' : Handed) : Prop :=
  h'.portId = h.portId ∧ h'.destinationTransactionId = h.destinationTransactionId ∧ h.envelope.Same h'.envelope

/-- Entries hidden from a target have no influence on what is handed over for it, whatever the
dispatchers, the directories and the reconcilers of the two runs do. -/
theorem split_noninterference (hsigner : engine.signer.ReadsJson) (hsame : engine'.signer = engine.signer)
    {envelope envelope' : ProductionEnvelope} {index : ℕ} (hmode : envelope.routeMode = .split)
    (hagree : ProductionEnvelope.AgreeFor index envelope envelope') (letter letter' : Str × Str) :
    ∀ h ∈ (engine.execute platform letter envelope).2.handed,
      ∀ h' ∈ (engine'.execute platform letter' envelope').2.handed,
        h.index = index → h'.index = index → h'.attempt = h.attempt → SameCall h h' := by
  rintro h hh h' hh' rfl hindex hattempt
  obtain ⟨target, child, htarget, hchild, hfor⟩ := execute_handed platform engine letter envelope h hh
  obtain ⟨target', child', htarget', hchild', hfor'⟩ := execute_handed platform engine' letter' envelope' h' hh'
  have htargets : target' = target := by
    rw [hagree.1, hindex, htarget] at htarget'
    exact (Option.some.inj htarget').symm
  rw [htargets] at hfor' hchild'
  rw [hindex] at hchild'
  obtain ⟨hfields, hpayload⟩ := child_same hsigner hsame hmode hagree hchild hchild'
  refine ⟨hfor'.portId.trans hfor.portId.symm, ?_, ?_, ?_⟩
  · rw [hfor'.destinationTransactionId, hfor.destinationTransactionId, hfields]
  · rw [hfor'.envelope, hfor.envelope, hattempt, hfields]
  · rw [hfor'.envelope, hfor.envelope]
    exact hpayload

end RouteExecutionEngine

namespace Sample

/-- A split route whose first target may see the address and whose second one the secret. -/
def splitting (secret : String) : ProductionEnvelope :=
  routed .split ["p1", "p2"] ["email", "secret"] (dict [("email", .text "a"), ("secret", .text secret)])

/-- The call for the first target, in the run with the secret. -/
theorem first_call (secret : String) : ∃ h ∈ ((engine lost).execute platform letter (splitting secret)).2.handed,
    h.index = 0 ∧ h.attempt = 1 := by
  have hresolve : ((engine lost).directory.resolve (str "p1") (str "send") (str "protected") RouteMode.split.value
      (str "org1") (str "t1")).isOk = true := by decide +kernel
  have hrun : ¬ (RouteMode.split = .direct ∧ ["p1", "p2"].length ≠ 1) ∧
      ¬ ((RouteMode.split = .split ∨ RouteMode.split = .multicast) ∧ ["p1", "p2"].length < 2) := by decide
  have hpayload : JsonPayload (dict [("email", .text "a"), ("secret", .text secret)]) := by
    rw [dict, List.foldl_cons, List.foldl_cons, List.foldl_nil]
    exact jsonPayload_set (jsonPayload_set jsonPayload_empty "email" "a") "secret" secret
  rw [splitting]
  exact @lost_attempts .split "p1" ["p2"] ["email", "secret"] _ hrun hresolve hpayload 1 (by omega)

theorem secret_not_disclosed : ∃ h ∈ ((engine lost).execute platform letter (splitting "x")).2.handed,
    ∃ h' ∈ ((engine lost).execute platform letter (splitting "y")).2.handed,
      h.index = 0 ∧ h'.index = 0 ∧ RouteExecutionEngine.SameCall h h' := by
  obtain ⟨h, hh, hindex, hattempt⟩ := first_call "x"
  obtain ⟨h', hh', hindex', hattempt'⟩ := first_call "y"
  have hagree : ProductionEnvelope.AgreeFor 0 (splitting "x") (splitting "y") := by
    refine ⟨rfl, fun key hkey => ?_⟩
    have hallowed : RouteExecutionEngine.allowed (splitting "x") 0 = [str "email"] := by decide +kernel
    rw [hallowed, List.mem_singleton] at hkey
    simp [hkey, splitting, routed, dict, JsMap.get_set]
  exact ⟨h, hh, h', hh', hindex, hindex', RouteExecutionEngine.split_noninterference hmacSigner_ideal.toReadsJson
    rfl rfl hagree letter letter h hh h' hh' hindex hindex' (hattempt'.trans hattempt.symm)⟩

end Sample

end Superstructure
