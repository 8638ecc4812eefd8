import Mathlib.Data.List.Basic
import WorkflowEditor.Http.Url
import WorkflowEditor.Json.Token

/-!
# WorkflowEditor.Proofs.Http.Encoding

Characters as they are sent in a path.  Texts without a `%` are still told apart
by what is sent, because the bytes of a text can be read back; with a `%` they
are not, since it is sent as it is.

* `decode_encode` — the bytes that are read back are those of the text;
* `encode_injective` — different texts without a `%` are sent differently.
-/

namespace WorkflowEditor.Url

/-- A text as it is sent in a path. -/
def encode (cs : List Char) : List Char := cs.flatMap (encodeChar isPathChar)

theorem encode_cons (c : Char) (rest : List Char) :
    encode (c :: rest) = encodeChar isPathChar c ++ encode rest := List.flatMap_cons

theorem encode_append (first second : List Char) :
    encode (first ++ second) = encode first ++ encode second := List.flatMap_append

/-- The bytes that are read from a path: a `%` and two digits are one. -/
def decode : List Char → List UInt8
  | '%' :: high :: low :: rest =>
      UInt8.ofNat (16 * (Json.hexValue? high).getD 0 + (Json.hexValue? low).getD 0) :: decode rest
  | c :: rest => UInt8.ofNat c.toNat :: decode rest
  | [] => []

/-! ## single characters -/

theorem hexValue?_hexDigit : ∀ n < 16, Json.hexValue? (hexDigit n) = some n := by decide

theorem isPathChar_hexDigit : ∀ n < 16, isPathChar (hexDigit n) = true := by decide

theorem decode_cons {c : Char} (h : c ≠ '%') (rest : List Char) :
    decode (c :: rest) = UInt8.ofNat c.toNat :: decode rest := by
  rw [decode]
  rintro high low others rfl
  exact (h rfl).elim

/-- A byte that is spelled with `%` is read back. -/
theorem decode_spelled (b : UInt8) (rest : List Char) :
    decode ('%' :: hexDigit (b.toNat / 16) :: hexDigit (b.toNat % 16) :: rest) =
      b :: decode rest := by
  have hbyte : b.toNat < 256 := b.toNat_lt
  have hhigh := hexValue?_hexDigit (b.toNat / 16) (by omega)
  have hlow := hexValue?_hexDigit (b.toNat % 16) (by omega)
  rw [decode, hhigh, hlow, Option.getD_some, Option.getD_some, Nat.div_add_mod, UInt8.ofNat_toNat]

theorem decode_spelled_all (bs : List UInt8) (rest : List Char) :
    decode ((bs.flatMap fun b => ['%', hexDigit (b.toNat / 16), hexDigit (b.toNat % 16)]) ++ rest) =
      bs ++ decode rest := by
  induction bs with
  | nil => rfl
  | cons b others ih =>
      rw [List.flatMap_cons, List.append_assoc]
      exact (decode_spelled b _).trans (congrArg (b :: ·) ih)

theorem toNat_lt_of_isPathChar {c : Char} (h : isPathChar c = true) : c.toNat < 0x7F := by
  simp only [isPathChar, isPrintable, Bool.and_eq_true, decide_eq_true_eq] at h
  exact h.1.2

theorem utf8EncodeChar_eq {c : Char} (h : c.toNat < 0x7F) :
    String.utf8EncodeChar c = [UInt8.ofNat c.toNat] := if_pos (Nat.le_of_lt h)

/-- A character other than `%` is read back as the bytes of its UTF-8 form. -/
theorem decode_encodeChar {c : Char} (h : c ≠ '%') (rest : List Char) :
    decode (encodeChar isPathChar c ++ rest) = String.utf8EncodeChar c ++ decode rest := by
  rw [encodeChar]
  split
  · next hkept =>
    rw [utf8EncodeChar_eq (toNat_lt_of_isPathChar hkept)]
    exact decode_cons h rest
  · exact decode_spelled_all _ rest

/-! ## texts -/

theorem decode_encode {cs : List Char} (h : '%' ∉ cs) :
    decode (encode cs) = cs.flatMap String.utf8EncodeChar := by
  induction cs with
  | nil => rfl
  | cons c rest ih =>
      rw [List.mem_cons, not_or] at h
      rw [encode_cons, decode_encodeChar (Ne.symm h.1), ih h.2, List.flatMap_cons]

/-- **Different texts without a `%` are sent differently.** -/
theorem encode_injective {cs ds : List Char} (hcs : '%' ∉ cs) (hds : '%' ∉ ds)
    (h : encode cs = encode ds) : cs = ds := by
  have hbytes : cs.flatMap String.utf8EncodeChar = ds.flatMap String.utf8EncodeChar := by
    rw [← decode_encode hcs, ← decode_encode hds, h]
  have hutf8 : cs.utf8Encode = ds.utf8Encode := by
    rw [List.utf8Encode, List.utf8Encode, hbytes]
  apply String.ofList_injective
  rw [← String.toByteArray_inj, String.toByteArray_ofList, String.toByteArray_ofList, hutf8]

/-- What is sent consists of characters of a path. -/
theorem isPathChar_of_mem_encode {cs : List Char} {c : Char} (h : c ∈ encode cs) :
    isPathChar c = true := by
  obtain ⟨d, -, hc⟩ := List.mem_flatMap.mp h
  rw [encodeChar] at hc
  split at hc
  · next hkept =>
    rw [List.mem_singleton.mp hc]
    exact hkept
  · obtain ⟨b, -, hc⟩ := List.mem_flatMap.mp hc
    have hbyte : b.toNat < 256 := b.toNat_lt
    simp only [List.mem_cons, List.not_mem_nil, or_false] at hc
    obtain rfl | rfl | rfl := hc
    · decide
    · exact isPathChar_hexDigit _ (by omega)
    · exact isPathChar_hexDigit _ (by omega)

end WorkflowEditor.Url
