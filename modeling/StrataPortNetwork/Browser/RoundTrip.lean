import StrataPortNetwork.Browser.Opening

/-! # Round trips of sealed packages

With an ideal cipher and an ideal key derivation, a package opens to the file that was sealed
exactly when the metadata fit into what the reader takes, and nothing else opens.
-/
namespace Browser
open Js

/-- An ideal cipher opens what was encrypted and nothing else. An ideal derivation makes different
keys from different passphrases and salts. -/
structure Ideal (crypto : WebCrypto) (made : crypto.Key → Bytes → Bytes → Prop) : Prop where
  opens : ∀ key iv ciphertext clear, crypto.decrypt key iv ciphertext = some clear ↔
    made key iv clear ∧ ciphertext = crypto.encrypt key iv clear
  derived : ∀ passphrase salt passphrase' salt', crypto.pbkdf2 passphrase salt = crypto.pbkdf2 passphrase' salt' →
    passphrase = passphrase' ∧ salt = salt'

variable (crypto : WebCrypto) (salt iv : Bytes) (file : SourceFile) (passphrase : Json)

def SourceFile.nameText : JsString := file.name.str?.getD []

/-- The encryption that `sealFile` makes. -/
def Sealing : crypto.Key → Bytes → Bytes → Prop := fun key iv' clear =>
  keyFromPassphrase crypto passphrase salt = .ok key ∧ iv' = iv ∧ clear = clearText crypto file file.nameText

/-- The JSON text of a package opens under the passphrase to the name, the type and the bytes of the
file. -/
def Opens (sealed : Sealed) : Prop := ∃ opened, openPackage crypto (stringify sealed.package) passphrase = .ok opened ∧
  file.name = .str opened.name ∧ opened.mime = file.mime ∧ opened.bytes = file.data

/-- No package with another salt, IV or ciphertext opens. -/
def RejectsAltered (sealed : Sealed) : Prop := ∀ text parts passphrase opened, decodePackage text = .ok parts →
  decodePackage (stringify sealed.package) ≠ .ok parts → openPackage crypto text passphrase ≠ .ok opened

variable {crypto salt iv file passphrase}

theorem sealFile_spec {sealed : Sealed} (h : sealFile crypto salt iv file passphrase = .ok sealed) : ∃ key,
    file.name = .str file.nameText ∧ safeName (some (.str file.nameText)) = .ok file.nameText ∧ file.data.length ≤ MAX_FILE_BYTES ∧
      keyFromPassphrase crypto passphrase salt = .ok key ∧
        sealed.package = packageOf salt iv (crypto.encrypt key iv (clearText crypto file file.nameText)) := by
  simp only [sealFile, bind_eq_ok, ensure_eq_ok, pure_eq_ok, Bool.and_eq_true, decide_eq_true_eq, beq_iff_eq] at h
  obtain ⟨-, ⟨-, hsize⟩, name, hname, -, hdata, key, hkey, rfl⟩ := h
  have htext : file.name = .str name := Option.some.inj (safeName_spec hname).1
  have hnameText : file.nameText = name := by
    rw [SourceFile.nameText, htext]
    rfl
  rw [hnameText]
  exact ⟨key, htext, htext ▸ hname, by omega, hkey, rfl⟩

/-- A package opens through its parts. -/
theorem openPackage_ok {text : JsString} {opened : Opened} : openPackage crypto text passphrase = .ok opened ↔ ∃ parts key clear,
    decodePackage text = .ok parts ∧ keyFromPassphrase crypto passphrase parts.salt = .ok key ∧
      crypto.decrypt key parts.iv parts.ciphertext = some clear ∧ openClear crypto clear = .ok opened := by
  simp only [openPackage, bind_eq_ok, orThrow_eq_ok]
  constructor
  · rintro ⟨parts, hparts, key, hkey, clear, hclear, hopened⟩
    exact ⟨parts, key, clear, hparts, hkey, hclear, hopened⟩
  · rintro ⟨parts, key, clear, hparts, hkey, hclear, hopened⟩
    exact ⟨parts, hparts, key, hkey, clear, hclear, hopened⟩

theorem keyFromPassphrase_ok {key : crypto.Key} (h : keyFromPassphrase crypto passphrase salt = .ok key) :
    ∃ text, passphrase = .str text ∧ key = crypto.pbkdf2 (utf8Encode text) salt := by
  simp only [keyFromPassphrase, bind_eq_ok, orThrow_eq_ok, ensure_eq_ok, pure_eq_ok] at h
  obtain ⟨text, htext, -, -, rfl⟩ := h
  cases passphrase <;> simp_all [Json.str?]

section
variable {sealed : Sealed} (hsealed : sealFile crypto salt iv file passphrase = .ok sealed)
  (hideal : Ideal crypto (Sealing crypto salt iv file passphrase))
include hsealed hideal

/-- Whatever opens, under any passphrase, has the parts of the package. -/
theorem opened_parts {text : JsString} {other : Json} {opened : Opened} (h : openPackage crypto text other = .ok opened) :
    ∃ key, sealed.package = packageOf salt iv (crypto.encrypt key iv (clearText crypto file file.nameText)) ∧
      decodePackage text = .ok ⟨salt, iv, crypto.encrypt key iv (clearText crypto file file.nameText)⟩ ∧
        openClear crypto (clearText crypto file file.nameText) = .ok opened := by
  obtain ⟨key, -, -, -, hkey, hpackage⟩ := sealFile_spec hsealed
  obtain ⟨parts, otherKey, clear, hdecoded, hotherKey, hdecrypted, hcontents⟩ := openPackage_ok.mp h
  obtain ⟨⟨hsame, hpartsIv, rfl⟩, hciphertext⟩ := (hideal.opens ..).mp hdecrypted
  obtain ⟨otherText, -, hderived⟩ := keyFromPassphrase_ok hotherKey
  obtain ⟨ownText, -, hown⟩ := keyFromPassphrase_ok hkey
  obtain rfl := Except.ok.inj (hkey.symm.trans hsame)
  have hpartsSalt := (hideal.derived _ _ _ _ (hderived.symm.trans hown)).2
  obtain ⟨partsSalt, partsIv, ciphertext⟩ := parts
  dsimp only at hpartsSalt hpartsIv hciphertext
  subst hpartsSalt hpartsIv hciphertext
  exact ⟨key, hpackage, hdecoded, hcontents⟩

theorem fits_of_opened {text : JsString} {other : Json} {opened : Opened} (h : openPackage crypto text other = .ok opened) :
    Fits file file.nameText := by
  obtain ⟨-, -, hsafe, hsize, -⟩ := sealFile_spec hsealed
  obtain ⟨-, -, -, hcontents⟩ := opened_parts hsealed hideal h
  exact ((openClear_iff hsafe hsize).mp hcontents).1

theorem altered_rejected (hsalt : salt.length = 16) (hiv : iv.length = 12) : RejectsAltered crypto sealed := by
  intro text parts other opened hdecoded hne hopened
  obtain ⟨key, hpackage, hsame, -⟩ := opened_parts hsealed hideal hopened
  rw [hdecoded] at hsame
  obtain rfl := Except.ok.inj hsame
  rw [hpackage] at hne
  exact hne (decodePackage_packageOf hsalt hiv (decodePackage_bounds hdecoded).2.2)

theorem opens_of_fits (hsalt : salt.length = 16) (hiv : iv.length = 12) (hfits : Fits file file.nameText) :
    Opens crypto file passphrase sealed := by
  obtain ⟨key, hname, hsafe, hsize, hkey, hpackage⟩ := sealFile_spec hsealed
  have hmeta := @length_metadataBytes crypto file file.nameText (hsize.trans_lt (by decide))
  have hclear : (clearText crypto file file.nameText).length =
      4 + (metadataBytes crypto file file.nameText).length + file.data.length := by
    rw [clearText, List.length_append, List.length_append, Nat.add_assoc]
    rfl
  have hbound : (crypto.encrypt key iv (clearText crypto file file.nameText)).length ≤ MAX_FILE_BYTES + 4096 := by
    rw [crypto.encrypt_length, hclear, hmeta]
    rw [Fits] at hfits
    omega
  refine ⟨⟨file.nameText, file.mime, file.data, digest crypto file.data⟩, ?_, hname, rfl, rfl⟩
  rw [hpackage]
  exact openPackage_ok.mpr ⟨_, key, _, decodePackage_packageOf hsalt hiv hbound, hkey,
    (hideal.opens ..).mpr ⟨⟨hkey, rfl, rfl⟩, rfl⟩, (openClear_iff hsafe hsize).mpr ⟨hfits, rfl⟩⟩

end

namespace Sample

def zeroSalt : Bytes := List.replicate 16 0
def zeroIv : Bytes := List.replicate 12 0
def words : JsString := js "twelve words"

/-- A toy cipher that opens nothing. -/
def closed : WebCrypto where
  sha256 _ := List.replicate 32 0
  sha256_length _ := rfl
  Key := Bytes × Bytes
  pbkdf2 := Prod.mk
  encrypt _ _ clear := clear ++ List.replicate 16 0
  encrypt_length _ _ clear := by rw [List.length_append, List.length_replicate]
  decrypt _ _ _ := none

/-- The clear text under which `toy` opens. -/
def clearOf (file : SourceFile) : Bytes := clearText closed file file.nameText

/-- What the toy cipher opens: the encryption that `sealFile` makes of one file. -/
def opened (file : SourceFile) (key : Bytes × Bytes) (iv ciphertext : Bytes) : Option Bytes :=
  if key = (utf8Encode words, zeroSalt) ∧ iv = zeroIv ∧ ciphertext = clearOf file ++ List.replicate 16 0 then some (clearOf file)
  else none

def toy (file : SourceFile) : WebCrypto := { closed with decrypt := opened file }

theorem keyFromPassphrase_words (file : SourceFile) :
    keyFromPassphrase (toy file) (.str words) zeroSalt = .ok (utf8Encode words, zeroSalt) := by rfl

theorem toy_ideal (file : SourceFile) : Ideal (toy file) (Sealing (toy file) zeroSalt zeroIv file (.str words)) where
  opens := fun (key : Bytes × Bytes) iv ciphertext clear => by
    show opened file key iv ciphertext = some clear ↔
      (keyFromPassphrase (toy file) (.str words) zeroSalt = .ok key ∧ iv = zeroIv ∧ clear = clearOf file) ∧
        ciphertext = clear ++ List.replicate 16 0
    have hkey : keyFromPassphrase (toy file) (.str words) zeroSalt = .ok key ↔ key = (utf8Encode words, zeroSalt) := by
      rw [keyFromPassphrase_words]
      exact ⟨fun h => (Except.ok.inj h).symm, fun h => congrArg Except.ok h.symm⟩
    rw [opened, Option.ite_none_right_eq_some, Option.some.injEq, hkey]
    constructor
    · rintro ⟨⟨hsame, hiv, hciphertext⟩, rfl⟩
      exact ⟨⟨hsame, hiv, rfl⟩, hciphertext⟩
    · rintro ⟨⟨hsame, hiv, rfl⟩, hciphertext⟩
      exact ⟨⟨hsame, hiv, hciphertext⟩, rfl⟩
  derived _ _ _ _ h := ⟨congrArg Prod.fst h, congrArg Prod.snd h⟩

/-- A file of two bytes. -/
def note : SourceFile := ⟨.text "note.txt", .text "text/plain", 2, [104, 105]⟩

/-- The longest name of wide characters and a type of quotation marks. -/
def wide : SourceFile := ⟨.str (List.replicate 255 0x6587), .str (List.replicate 128 34), 0, []⟩

theorem exists_ok {α : Type} {x : Outcome α} (h : x.isOk = true) : ∃ a, x = .ok a := by
  cases x with
  | ok a => exact ⟨a, rfl⟩
  | error e => cases h

end Sample

end Browser
