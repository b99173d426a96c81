import StrataPortNetwork.TwoMachine.Inspectable
import Mathlib.Data.Nat.Digits.Lemmas

/-! # Distinct hosts

Fingerprints are checked without regard to letter case and compared as they are written. A
receipt tells two hosts apart correctly exactly when the source did not write the fingerprint of
the destination in other letters.
-/
namespace TwoMachine
open Js (js JsString Bytes Regex CharClass hexValue? ensure orThrow bind_eq_ok ensure_eq_ok)
open Py (Value Str ofUnits)
open ProofReceiver Transition

/-! ## Digests -/

/-- The number that hexadecimal digits denote, in either letter case. -/
def digestOf (fingerprint : JsString) : ℕ := Nat.ofDigits 16 (fingerprint.reverse.map fun u => (hexValue? u).getD 0)

def isHex (u : UInt16) : Bool := (Regex.hex ++ [(65, 70)] : CharClass).has u

theorem isHex_cases {u : UInt16} (h : isHex u = true) :
    (48 ≤ u.toNat ∧ u.toNat ≤ 57) ∨ (97 ≤ u.toNat ∧ u.toNat ≤ 102) ∨ (65 ≤ u.toNat ∧ u.toNat ≤ 70) := by
  simp only [isHex, Regex.hex, CharClass.has, List.any_append, List.any_cons, List.any_nil, Bool.or_false, Bool.or_eq_true,
    Bool.and_eq_true, decide_eq_true_eq] at h
  omega

/-- The code of a digit's lower-case letter. -/
def lowerCode (u : UInt16) : ℕ := if 65 ≤ u.toNat ∧ u.toNat ≤ 90 then u.toNat + 32 else u.toNat

theorem lowerCode_eq {u : UInt16} (h : isHex u = true) :
    (if 65 ≤ u.toNat ∧ u.toNat ≤ 90 then u + 32 else u).toNat = lowerCode u := by
  rw [lowerCode]
  split
  · rw [UInt16.toNat_add, Nat.mod_eq_of_lt]
    · rfl
    · rcases isHex_cases h with h | h | h
      all_goals
        simp only [UInt16.reduceToNat]
        omega
  · rfl

theorem hexValue_eq {u : UInt16} (h : isHex u = true) :
    (hexValue? u).getD 0 = if lowerCode u ≤ 57 then lowerCode u - 48 else lowerCode u - 87 := by
  rcases isHex_cases h with h | h | h
  all_goals
    simp only [hexValue?, lowerCode]
    split_ifs
    all_goals first | omega | rfl

theorem lowerCode_bounds {u : UInt16} (h : isHex u = true) :
    (48 ≤ lowerCode u ∧ lowerCode u ≤ 57) ∨ (97 ≤ lowerCode u ∧ lowerCode u ≤ 102) := by
  rw [lowerCode]
  rcases isHex_cases h with h | h | h
  · left
    rw [if_neg (by omega)]
    exact h
  · right
    rw [if_neg (by omega)]
    exact h
  · right
    rw [if_pos (by omega)]
    omega

theorem hexValue_lt {u : UInt16} (h : isHex u = true) : (hexValue? u).getD 0 < 16 := by
  rw [hexValue_eq h]
  have := lowerCode_bounds h
  split <;> omega

/-- Digits have one value exactly when they are one letter in lower case. -/
theorem hexValue_inj {u v : UInt16} (hu : isHex u = true) (hv : isHex v = true) :
    (hexValue? u).getD 0 = (hexValue? v).getD 0 ↔
      (if 65 ≤ u.toNat ∧ u.toNat ≤ 90 then u + 32 else u) = if 65 ≤ v.toNat ∧ v.toNat ≤ 90 then v + 32 else v := by
  rw [← UInt16.toNat_inj, lowerCode_eq hu, lowerCode_eq hv, hexValue_eq hu, hexValue_eq hv]
  have hbu := lowerCode_bounds hu
  have hbv := lowerCode_bounds hv
  constructor
  · intro h
    split_ifs at h <;> omega
  · exact fun h => by rw [h]

theorem isHex_of_valid {s : JsString} (h : validSha256 s = true) : s.length = 64 ∧ ∀ u ∈ s, isHex u = true := by
  rw [validSha256, sha256Pattern, Regex.accepts_iff] at h
  cases h with
  | run hall hl hm => exact ⟨le_antisymm hm hl, hall⟩

theorem toLowerCase_eq_iff {s t : JsString} (hs : ∀ u ∈ s, isHex u = true) (ht : ∀ u ∈ t, isHex u = true) :
    toLowerCase s = toLowerCase t ↔ (s.map fun u => (hexValue? u).getD 0) = t.map fun u => (hexValue? u).getD 0 := by
  induction s generalizing t with
  | nil => cases t <;> simp [toLowerCase]
  | cons u s ih =>
    cases t with
    | nil => simp [toLowerCase]
    | cons v t =>
      have hrest := ih (fun w hw => hs w (List.mem_cons_of_mem u hw)) fun w hw => ht w (List.mem_cons_of_mem v hw)
      have hfirst := hexValue_inj (hs u List.mem_cons_self) (ht v List.mem_cons_self)
      rw [toLowerCase, toLowerCase] at hrest ⊢
      rw [List.map_cons, List.map_cons, List.map_cons, List.map_cons, List.cons.injEq, List.cons.injEq, hrest, hfirst]

/-- Fingerprints denote one digest exactly when they are one text in lower case. -/
theorem digestOf_eq_iff {s t : JsString} (hs : validSha256 s = true) (ht : validSha256 t = true) :
    digestOf s = digestOf t ↔ toLowerCase s = toLowerCase t := by
  obtain ⟨hslen, hshex⟩ := isHex_of_valid hs
  obtain ⟨htlen, hthex⟩ := isHex_of_valid ht
  have hbound : ∀ {l : JsString}, (∀ u ∈ l, isHex u = true) → ∀ d ∈ l.reverse.map fun u => (hexValue? u).getD 0, d < 16 := by
    intro l hl d hd
    obtain ⟨u, hu, rfl⟩ := List.mem_map.mp hd
    exact hexValue_lt (hl u (List.mem_reverse.mp hu))
  rw [toLowerCase_eq_iff hshex hthex, digestOf, digestOf]
  constructor
  · intro h
    have hdigits := Nat.ofDigits_inj_of_len_eq (by omega) (by simp [hslen, htlen]) (hbound hshex) (hbound hthex) h
    rw [List.map_reverse, List.map_reverse, List.reverse_inj] at hdigits
    exact hdigits
  · intro h
    rw [List.map_reverse, List.map_reverse, h]

/-! ## Receipts and their inspection -/

/-- `distinct` of `inspect_receipt`. -/
def inspectedDistinct (receipt : Value) : Bool :=
  strField receipt "sourceHostFingerprint" != strField receipt "destinationHostFingerprint"

/-- The receipt tells the hosts apart by their digests, and the inspection classifies it alike. -/
structure TellsHosts (platform : Platform) (x : Issued) : Prop where
  distinct : x.core.distinctHostFingerprints = true ↔
    digestOf x.core.sourceHostFingerprint ≠ digestOf x.core.destinationHostFingerprint
  network : x.core.twoHostNetworkProofSatisfied = true →
    digestOf x.core.sourceHostFingerprint ≠ digestOf x.core.destinationHostFingerprint
  inspected : inspectedDistinct (Value.ofJson x.receipt) = x.core.distinctHostFingerprints
  unrefused : ∀ fromisoformat secret payload, inspectReceipt platform fromisoformat (Value.ofJson x.receipt) secret payload ≠
    .error (refuse "Contradictory host classification")

/-- The source wrote the destination's fingerprint, if at all, as the receiver writes it. -/
def PlainlyWritten (session : Session) : Prop := toLowerCase session.sourceHostFingerprint = session.destinationHostFingerprint →
  session.sourceHostFingerprint = session.destinationHostFingerprint

variable {platform : Platform} {r : ProofReceiver} {x : Issued}

theorem inspectedDistinct_issued (x : Issued) : inspectedDistinct (Value.ofJson x.receipt) =
    (x.core.sourceHostFingerprint != x.core.destinationHostFingerprint) := by
  obtain ⟨-, -, -, -, -, -, hsource, hdestination, -⟩ := strings_issued x
  rw [inspectedDistinct, hsource, hdestination, Bool.eq_iff_iff, bne_iff_ne, bne_iff_ne, ne_eq, Option.some.injEq,
    Py.ofUnits_injective.eq_iff]

/-! ## What the inspection refuses -/

section
variable {ε α β : Type} {e e' : ε}

theorem ok_ne_error {a : α} : (Except.ok a : Except ε α) ≠ .error e := fun h => nomatch h

theorem bind_ne_error {m : Except ε α} {f : α → Except ε β} (hm : m ≠ .error e) (hf : ∀ a, f a ≠ .error e) :
    (m >>= f) ≠ .error e := by
  cases m with
  | error e' => exact fun h => hm (congrArg Except.error (Except.error.inj h))
  | ok a => exact hf a

theorem ensure_ne_error {condition : Bool} (h : e' ≠ e) : ensure condition e' ≠ .error e := by
  cases condition
  · exact fun heq => h (Except.error.inj heq)
  · exact ok_ne_error

theorem orThrow_ne_error {o : Option α} (h : e' ≠ e) : orThrow o e' ≠ .error e := by
  cases o
  · exact fun heq => h (Except.error.inj heq)
  · exact ok_ne_error

end

theorem refuse_ne {message message' : String} (h : message ≠ message') : refuse message ≠ refuse message' := by
  intro heq
  have htext := congrArg Py.PyError.message heq
  simp only [refuse, ← Py.ofUnits_js, Py.ofUnits_injective.eq_iff, Js.js_inj] at htext
  exact h htext

theorem refuse_ne_of_cls {cls : Py.ErrorClass} {text : Str} {message : String} (h : cls ≠ .valueError) :
    (⟨cls, text⟩ : Py.PyError) ≠ refuse message := fun heq => h (congrArg Py.PyError.cls heq)

theorem encode_ne {text : Str} {message : String} : Py.encode text ≠ .error (refuse message) := by
  rw [Py.encode]
  split
  · exact fun h => refuse_ne_of_cls (by decide) (Except.error.inj h)
  · exact ok_ne_error

theorem payload_unrefused (platform : Platform) (payload : Option Bytes) (payloadBytes : ℤ) (payloadSha256 : Option Str)
    (macVerified : Bool) : (match payload with
      | none => do
        let payloadVerified ← pure false
        pure ⟨macVerified, payloadVerified⟩
      | some bytes => do
        ensure (bytes.length ≤ payloadBytes) (refuse "Payload size mismatch")
        ensure (bytes.length = payloadBytes && some (ofUnits (platform.sha256 bytes)) == payloadSha256)
          (refuse "Payload hash mismatch")
        let payloadVerified ← pure true
        pure ⟨macVerified, payloadVerified⟩ : Py.Outcome Inspection) ≠ .error (refuse "Contradictory host classification") := by
  split
  · exact bind_ne_error ok_ne_error fun _ => ok_ne_error
  · iterate 2 refine bind_ne_error (ensure_ne_error (refuse_ne (by decide))) fun _ => ?_
    exact bind_ne_error ok_ne_error fun _ => ok_ne_error

/-- An issued and verified receipt is never refused for its classification of the hosts. -/
theorem inspectReceipt_unrefused (hx : Issued.Genuine platform r x) (hverified : x.core.integrityVerified = true)
    (fromisoformat : Str → Bool) (secret : Option Value) (payload : Option Bytes) :
    inspectReceipt platform fromisoformat (Value.ofJson x.receipt) secret payload ≠
      .error (refuse "Contradictory host classification") := by
  have hclassified : (boolField (Value.ofJson x.receipt) "distinctHostFingerprints" ==
        some (inspectedDistinct (Value.ofJson x.receipt)) &&
      boolField (Value.ofJson x.receipt) "twoHostNetworkProofSatisfied" ==
        some (inspectedDistinct (Value.ofJson x.receipt) && boolField (Value.ofJson x.receipt) "loopbackObserved" == some false)) =
      true := by
    obtain ⟨hdistinct, hloopback, -, -, -, hnetwork, -⟩ := booleans_issued x
    obtain ⟨hflag, hsatisfied⟩ := flags_issued hx hverified
    have hopposite : (some x.core.loopbackObserved == some false) = !x.core.loopbackObserved := by
      cases x.core.loopbackObserved <;> rfl
    rw [hdistinct, hloopback, hnetwork, inspectedDistinct_issued, ← hflag, hopposite, hsatisfied, beq_self_eq_true,
      beq_self_eq_true, Bool.and_self]
  rw [inspectReceipt]
  iterate 4 refine bind_ne_error (ensure_ne_error (refuse_ne (by decide))) fun _ => ?_
  refine bind_ne_error (orThrow_ne_error (refuse_ne_of_cls (by decide))) fun _ => ?_
  refine bind_ne_error (ensure_ne_error (refuse_ne (by decide))) fun _ => ?_
  refine bind_ne_error (orThrow_ne_error (refuse_ne (by decide))) fun _ => ?_
  iterate 6 refine bind_ne_error (ensure_ne_error (refuse_ne (by decide))) fun _ => ?_
  refine bind_ne_error ?_ fun _ => ?_
  · rw [inspectedDistinct] at hclassified
    rw [ensure, if_pos hclassified]
    exact ok_ne_error
  refine bind_ne_error (ensure_ne_error (refuse_ne (by decide))) fun _ => ?_
  refine bind_ne_error (orThrow_ne_error (refuse_ne (by decide))) fun _ => ?_
  iterate 2 refine bind_ne_error (ensure_ne_error (refuse_ne (by decide))) fun _ => ?_
  dsimp only
  split
  · exact bind_ne_error ok_ne_error fun _ => payload_unrefused _ _ _ _ _
  · refine bind_ne_error (ensure_ne_error (refuse_ne (by decide))) fun _ => ?_
    refine bind_ne_error (orThrow_ne_error (refuse_ne_of_cls (by decide))) fun _ => ?_
    refine bind_ne_error encode_ne fun _ => bind_ne_error encode_ne fun _ => ?_
    refine bind_ne_error (ensure_ne_error (refuse_ne (by decide))) fun _ => ?_
    exact bind_ne_error ok_ne_error fun _ => payload_unrefused _ _ _ _ _
  · exact bind_ne_error (fun h => refuse_ne (by decide) (Except.error.inj h)) fun _ => payload_unrefused _ _ _ _ _

/-! ## Every accepted transfer -/

theorem answers_transferOf {secret : JsString} (call : SendCall) (hello : Hello) (drawn : Drawn) {destination : JsString}
    (hdestination : validSha256 destination = true) (iv : Bytes) : Answers platform secret call hello
      (transferOf platform secret call hello drawn.sessionId drawn.challenge destination iv) :=
  ⟨drawn.sessionId_uuid, hex_of_pattern drawn.challenge_hex, hdestination, rfl, rfl⟩

theorem tellsHosts_iff (hx : Issued.Genuine platform r x) (hverified : x.core.integrityVerified = true) :
    TellsHosts platform x ↔ PlainlyWritten x.claim.session := by
  obtain ⟨hflag, hsatisfied⟩ := flags_issued hx hverified
  have hvalid := hx.valid
  have hdestination : toLowerCase x.core.destinationHostFingerprint = x.core.destinationHostFingerprint := by
    obtain ⟨loopback, now, hcore⟩ := hx.core
    rw [hcore]
    exact toLowerCase_of_lower hx.checked.destination
  have hplain : PlainlyWritten x.claim.session ↔ (toLowerCase x.core.sourceHostFingerprint = x.core.destinationHostFingerprint →
      x.core.sourceHostFingerprint = x.core.destinationHostFingerprint) := by
    obtain ⟨loopback, now, hcore⟩ := hx.core
    rw [hcore]
    rfl
  have hdigests := digestOf_eq_iff hvalid.source hvalid.destination
  rw [hdestination] at hdigests
  have hdistinct : x.core.distinctHostFingerprints = true ↔
      x.core.sourceHostFingerprint ≠ x.core.destinationHostFingerprint := by rw [hflag, bne_iff_ne]
  rw [hplain]
  constructor
  · intro h heq
    by_contra hne
    exact h.distinct.mp (hdistinct.mpr hne) (hdigests.mpr heq)
  · intro h
    have hiff : x.core.distinctHostFingerprints = true ↔
        digestOf x.core.sourceHostFingerprint ≠ digestOf x.core.destinationHostFingerprint := by
      rw [hdistinct, ne_eq, ne_eq, hdigests]
      refine not_congr ⟨fun heq => ?_, h⟩
      rw [heq, hdestination]
    refine ⟨hiff, fun hnetwork => ?_, ?_, inspectReceipt_unrefused hx hverified⟩
    · rw [hsatisfied, Bool.and_eq_true] at hnetwork
      exact hiff.mp hnetwork.1
    · rw [inspectedDistinct_issued, hflag]

/-- In any run, the receipt of a transfer that the receiver accepts tells the hosts apart by their
digests exactly when the source did not write the destination's fingerprint in other letters. -/
theorem accepted_tellsHosts (r : ProofReceiver) (events : List Event)
    (hx : x ∈ (run (r.step platform) State.start events).issued) (haccepted : (receiptResponse x true).status = 200) :
    TellsHosts platform x ↔ PlainlyWritten x.claim.session := by
  refine tellsHosts_iff (run_genuine r events x hx) ?_
  by_contra hfailed
  rw [receiptResponse, if_pos rfl, if_neg hfailed] at haccepted
  cases haccepted

namespace Sample

/-- The hello of a source on the receiver's host, in capital letters. -/
def capitals : Hello := { (callOf plainState).helloOf Sample.platform with
  sourceHostFingerprint := (receiver.destinationHostFingerprint Sample.platform).map fun u => if 97 ≤ u.toNat then u - 32 else u }

def capitalTransfer : Transfer := transferOf Sample.platform secret (callOf plainState) capitals firstDrawn.sessionId
  firstDrawn.challenge (receiver.destinationHostFingerprint Sample.platform) iv

def capitalSession : Session := receiver.sessionOf Sample.platform capitals firstDrawn now

def capitalLeg : List Event :=
  [.challenge now, .helloBody 0 (.ok (Body.ofText (Js.stringify capitals.toJson))) firstDrawn now now]

def capitalReceipt : Issued := capitalTransfer.issued Sample.platform receiver capitalSession [1] false now

theorem capitals_admissible : capitals.Admissible receiver where
  source := by decide +kernel
  stateId := by decide +kernel
  stateHash := hex_of_pattern (Sample.platform.sha256_hex _)
  generation := ⟨le_rfl, show (0 : ℤ) ≤ 9007199254740991 by decide⟩
  payloadSha256 := hex_of_pattern (Sample.platform.sha256_hex _)
  hashes := rfl
  payloadBytes := show (1 : ℤ) ≤ 1 ∧ (1 : ℤ) ≤ 1024 by decide

theorem capitalTransfer_answers : Answers Sample.platform receiver.secret (callOf plainState) capitals capitalTransfer :=
  answers_transferOf (callOf plainState) capitals firstDrawn (hex_of_pattern (Sample.platform.sha256_hex _)) iv

theorem capitalSession_fields : capitalSession.toProofFields =
    capitals.proofFields capitalTransfer.challenge capitalTransfer.destinationHostFingerprint := by
  have hlower := toLowerCase_of_lower (Sample.platform.sha256_hex (callOf plainState).canonicalPayload)
  simp only [capitalSession, sessionOf, Hello.proofFields, capitals, SendCall.helloOf, hlower]
  rfl

theorem capital_issued : (run (receiver.step Sample.platform) State.start
    (capitalLeg ++ transferLeg capitalTransfer now)).issued = [capitalReceipt] := by
  have hopened := @hello_run Sample.platform receiver capitals capitals_admissible (by decide +kernel) firstDrawn now now now
    State.start (show 0 < 1 by decide)
  have hlive : receiver.expired now capitalSession = false := by decide
  rw [run_append]
  generalize hstate : run (receiver.step Sample.platform) State.start capitalLeg = opened
  rw [show run (receiver.step Sample.platform) State.start capitalLeg = _ from hopened] at hstate
  have hget : opened.sessions.get capitalTransfer.sessionId = some capitalSession := by
    rw [← hstate]
    exact (Js.JsMap.get_set _ _ _ _).trans (if_pos (beq_self_eq_true _))
  have hlength : opened.requests.length = 1 := by rw [← hstate]; rfl
  have hissued : opened.issued = [] := by rw [← hstate]; rfl
  have htransfer := (transfer_run capitalTransfer_answers (show iv.length = 12 by decide) (show 1 ≤ 1024 by decide)
    capitalSession_fields hget hlive none now).2
  rw [hlength] at htransfer
  refine (congrArg State.issued htransfer).trans ?_
  rw [hissued]
  rfl

/-- A receipt that calls one host two. -/
theorem capitals_told_apart : capitalReceipt ∈ (run (receiver.step Sample.platform) State.start
      (capitalLeg ++ transferLeg capitalTransfer now)).issued ∧
    (receiptResponse capitalReceipt true).status = 200 ∧ capitalReceipt.core.twoHostNetworkProofSatisfied = true ∧
    ¬ TellsHosts Sample.platform capitalReceipt := by
  have hsame : digestOf capitalReceipt.core.sourceHostFingerprint = digestOf capitalReceipt.core.destinationHostFingerprint := by
    decide +kernel
  refine ⟨?_, by decide +kernel, by decide +kernel, fun h => h.network (by decide +kernel) hsame⟩
  rw [capital_issued]
  exact List.mem_cons_self

/-- An ordinary exchange on one host. -/
theorem plainReceipt_tellsHosts : TellsHosts Sample.platform plainReceipt := by
  have hmem : plainReceipt ∈ (run (receiver.step Sample.platform) State.start
      (exchange Sample.platform receiver (callOf plainState) firstDrawn now iv)).issued := by
    rw [exchange_issued (callOf_admissible (show validStateId plainState = true by decide))
      (show (callOf plainState).canonicalPayload.length ≤ receiver.maxBytes from (by decide : 1 ≤ 1024)) firstDrawn now
      (show iv.length = 12 by decide)]
    exact List.mem_cons_self
  have hverified : plainReceipt.core.integrityVerified = true :=
    (receiptMatches_issued (openedSession_fields (callOf plainState) firstDrawn now) false now).1
  refine (accepted_tellsHosts receiver _ hmem ?_).mpr fun _ => rfl
  rw [receiptResponse, if_pos rfl, if_pos hverified]

end Sample

end TwoMachine
