import Rulebook.Proofs.Http.Target
import Rulebook.Proofs.Page.Hole

/-!
# Queries read back

A text that is percent-encoded for an address comes back unchanged. The triples are undone byte by
byte (`Percent.decode_encodeStrict`), and since letters, digits and percent signs are nothing that
parts a query, a query of one field with such a value is read as this field (`queryField_queryOf`).
An address with such a query is taken apart into its path and the query (`splitTarget_of_field`).
-/

namespace Rulebook

open Text

namespace Text

/-! ## Triples undone -/

namespace Utf8

theorem encodeChar_of_lt {c : Char} (h : c.toNat < 0x80) : encodeChar c = [c.toNat.toUInt8] :=
  if_pos h

end Utf8

namespace Percent

variable {b : UInt8} {n : Nat}

/-- The byte of a hexadecimal digit. -/
def digitByte (n : Nat) : UInt8 :=
  (upperDigit n).toNat.toUInt8

theorem encodeChar_upperDigit (h : n < 16) : Utf8.encodeChar (upperDigit n) = [digitByte n] := by
  refine Utf8.encodeChar_of_lt ?_
  revert n
  decide

theorem digit?_digitByte (h : n < 16) : digit? (digitByte n) = some n := by
  revert n
  decide

theorem pair?_digitByte (b : UInt8) :
    pair? (digitByte (b.toNat / 16)) (digitByte (b.toNat % 16)) = some b := by
  have hb : b.toNat < 256 := b.toNat_lt
  rw [pair?, digit?_digitByte (by omega), digit?_digitByte (by omega)]
  dsimp only
  rw [Nat.div_add_mod', Nat.toUInt8, UInt8.ofNat_toNat]

/-- A triple is read as its byte. -/
theorem decodeFrom_triple (b : UInt8) (rest : List UInt8) :
    decodeFrom 0 ((triple b).flatMap Utf8.encodeChar ++ rest) = b :: decodeFrom 0 rest := by
  have hb : b.toNat < 256 := b.toNat_lt
  have hbytes : (triple b).flatMap Utf8.encodeChar =
      [0x25, digitByte (b.toNat / 16), digitByte (b.toNat % 16)] := by
    rw [triple, List.flatMap_cons, List.flatMap_cons, List.flatMap_singleton,
      encodeChar_upperDigit (by omega), encodeChar_upperDigit (by omega)]
    rfl
  rw [hbytes]
  simp only [List.cons_append, List.nil_append, decodeFrom, beq_self_eq_true, pair?_digitByte]

/-- A byte is read back, whether it is written as itself or as a triple. -/
theorem decodeFrom_strictByte (b : UInt8) (rest : List UInt8) :
    decodeFrom 0 ((strictByte b).flatMap Utf8.encodeChar ++ rest) = b :: decodeFrom 0 rest := by
  unfold strictByte
  dsimp only
  split
  · next hplain =>
    rw [Bool.and_eq_true, decide_eq_true_eq] at hplain
    have hascii : ∀ n < 0x80, (Char.ofNat n).toNat = n := by decide
    have hchar : (Char.ofNat b.toNat).toNat = b.toNat := hascii _ hplain.1
    have hb : b ≠ 0x25 := by
      rintro rfl
      exact absurd hplain.2 (by decide)
    rw [List.flatMap_singleton, Utf8.encodeChar_of_lt (by rw [hchar]; exact hplain.1), hchar,
      Nat.toUInt8, UInt8.ofNat_toNat]
    exact decodeFrom_cons hb
  · exact decodeFrom_triple b rest

/-- A text that is written with triples is read back. -/
theorem decode_encodeStrict (s : String) :
    decode (Utf8.encode (encodeStrict s)) = Utf8.encode s := by
  have hbytes : ∀ bytes : List UInt8,
      decodeFrom 0 (bytes.flatMap fun b => (strictByte b).flatMap Utf8.encodeChar) = bytes := by
    intro bytes
    induction bytes with
    | nil => rfl
    | cons b bytes ih => rw [List.flatMap_cons, decodeFrom_strictByte, ih]
  rw [decode, Utf8.encode, encodeStrict, String.toList_ofList, List.flatMap_assoc, hbytes]

end Percent

namespace UrlEncoded

variable {bytes name value : List UInt8}

/-- Without plus signs no blanks are written. -/
theorem decodeBytes_of_not_mem (h : 0x2B ∉ bytes) : decodeBytes bytes = Percent.decode bytes := by
  have hsame : ∀ b ∈ bytes, plusToBlank b = b := by
    intro b hb
    refine if_neg fun heq => h ?_
    rwa [← beq_iff_eq.mp heq]
  rw [decodeBytes, List.map_congr_left hsame, List.map_id']

/-- Without ampersands there is one piece. -/
theorem pieces_of_not_mem (h : 0x26 ∉ bytes) (hne : bytes ≠ []) : pieces bytes = [bytes] := by
  rw [pieces, List.splitOn_eq_singleton h]
  simp [hne]

/-- A piece is cut behind a name without equals signs. -/
theorem cut_of_not_mem (h : 0x3D ∉ name) : cut (name ++ 0x3D :: value) = (name, value) := by
  have hbefore : ∀ b ∈ name, (b != 0x3D) = true := by
    intro b hb
    rw [bne_iff_ne]
    rintro rfl
    exact h hb
  rw [cut, List.takeWhile_append_of_pos hbefore, List.dropWhile_append_of_pos hbefore,
    List.takeWhile_cons_of_neg (by decide), List.dropWhile_cons_of_neg (by decide),
    List.append_nil, List.drop_one, List.tail_cons]

end UrlEncoded

end Text

namespace Http

/-! ## Targets with a query -/

/-- A target that begins with a slash and has no fragment is a path and a query. -/
theorem splitTarget_of_query {target : String} {path query : List Char}
    (h : target.toList = '/' :: path ++ '?' :: query) (hpath : '?' ∉ path)
    (hfragment : '#' ∉ path ++ query) : splitTarget target = ('/' :: path, query) := by
  have hhost : withoutHost target.toList = target.toList := by
    rw [h]
    rfl
  have hall : ∀ c ∈ target.toList, c ≠ '#' := by
    rintro _ hc rfl
    rw [h, List.cons_append, List.mem_cons, List.mem_append, List.mem_cons] at hc
    rw [List.mem_append] at hfragment
    rcases hc with hc | hc | hc | hc
    · exact absurd hc (by decide)
    · exact hfragment (.inl hc)
    · exact absurd hc (by decide)
    · exact hfragment (.inr hc)
  have htaken : target.toList.takeWhile (· ≠ '#') = target.toList :=
    List.takeWhile_eq_self_iff.mpr fun c hc => decide_eq_true (hall c hc)
  have hbefore : ∀ c ∈ '/' :: path, decide (c ≠ '?') = true := by
    intro c hc
    refine decide_eq_true ?_
    rintro rfl
    exact (List.mem_cons.mp hc).elim (by decide) hpath
  rw [splitTarget, hhost, htaken, h, List.takeWhile_append_of_pos hbefore,
    List.dropWhile_append_of_pos hbefore, List.takeWhile_cons_of_neg (by decide),
    List.dropWhile_cons_of_neg (by decide), List.append_nil]
  rfl

/-! ## Queries of one field -/

/-- A query of one field, its value percent-encoded. -/
def queryOf (name value : String) : List Char :=
  name.toList ++ '=' :: (Percent.encodeStrict value).toList

/-- A character of the name of a field. -/
def isFieldChar (c : Char) : Bool :=
  c.isAlphanum || c = '_'

/-- What parts a query, or is read as something else in it. -/
def isReserved (c : Char) : Bool :=
  ['&', '=', '+', '#'].contains c

section Reserved

variable {c : Char} {name value : String}

/-- An alphabet without the four characters has nothing reserved. -/
theorem isReserved_of {alphabet : Char → Bool} (h : ['&', '=', '+', '#'].any alphabet = false)
    (hc : alphabet c = true) : isReserved c = false := by
  rw [Bool.eq_false_iff]
  exact fun hreserved => List.any_eq_false.mp h c (List.contains_iff_mem.mp hreserved) hc

theorem isReserved_of_mem_encodeStrict (h : c ∈ (Percent.encodeStrict value).toList) :
    isReserved c = false :=
  isReserved_of (by decide) (Percent.isStrict_of_mem_encodeStrict h)

theorem decodeBytes_encodeStrict (value : String) :
    UrlEncoded.decodeBytes (Utf8.encode (Percent.encodeStrict value)) = Utf8.encode value := by
  have hplus : 0x2B ∉ Utf8.encode (Percent.encodeStrict value) := fun h =>
    absurd (isReserved_of_mem_encodeStrict (Utf8.mem_of_mem_encode h (by decide))) (by decide)
  rw [UrlEncoded.decodeBytes_of_not_mem hplus, Percent.decode_encodeStrict]

variable (hname : name.toList.all isFieldChar = true)

include hname

theorem isReserved_of_mem_name (h : c ∈ name.toList) : isReserved c = false :=
  isReserved_of (by decide) (List.all_eq_true.mp hname c h)

/-- The only reserved character in a query of one field is its equals sign. -/
theorem not_mem_queryOf (hc : isReserved c = true) (hequals : c ≠ '=') :
    c ∉ queryOf name value := by
  rw [queryOf, List.mem_append, List.mem_cons]
  rintro (hmem | heq | hmem)
  · exact Bool.false_ne_true ((isReserved_of_mem_name hname hmem).symm.trans hc)
  · exact hequals heq
  · exact Bool.false_ne_true ((isReserved_of_mem_encodeStrict hmem).symm.trans hc)

theorem decodeBytes_name : UrlEncoded.decodeBytes (Utf8.encode name) = Utf8.encode name := by
  have hpercent : '%' ∉ name.toList := fun h =>
    absurd (List.all_eq_true.mp hname _ h) (by decide)
  have hplus : 0x2B ∉ Utf8.encode name := fun h =>
    absurd (isReserved_of_mem_name hname (Utf8.mem_of_mem_encode h (by decide))) (by decide)
  rw [UrlEncoded.decodeBytes_of_not_mem hplus, Percent.decode_of_not_mem (not_mem_encode hpercent)]

/-- A query of one field is the pair of its name and its value. -/
theorem queryPairs_queryOf (value : String) :
    queryPairs (queryOf name value) = [(name, value)] := by
  have hbytes : Utf8.encode (String.ofList (queryOf name value)) =
      Utf8.encode name ++ 0x3D :: Utf8.encode (Percent.encodeStrict value) := by
    have hsign : Utf8.encodeChar '=' = [0x3D] := by decide
    simp only [Utf8.encode, queryOf, String.toList_ofList, List.flatMap_append, List.flatMap_cons,
      hsign, List.singleton_append]
  have hampersand : 0x26 ∉ Utf8.encode (String.ofList (queryOf name value)) := by
    have hnone : '&' ∉ (String.ofList (queryOf name value)).toList := by
      rw [String.toList_ofList]
      exact not_mem_queryOf hname rfl (by decide)
    exact fun h => hnone (Utf8.mem_of_mem_encode h (by decide))
  have hequals : 0x3D ∉ Utf8.encode name := fun h =>
    absurd (isReserved_of_mem_name hname (Utf8.mem_of_mem_encode h (by decide))) (by decide)
  rw [hbytes] at hampersand
  rw [queryPairs, UrlEncoded.pairs, UrlEncoded.bytePairs, hbytes,
    UrlEncoded.pieces_of_not_mem hampersand (by simp)]
  simp only [List.map_cons, List.map_nil, UrlEncoded.cut_of_not_mem hequals, decodeBytes_name hname,
    decodeBytes_encodeStrict, Utf8.decodeLossy_encode]

/-- A query of one field is read as this field, whatever its value is. -/
theorem queryField_queryOf (value : String) :
    queryField (queryPairs (queryOf name value)) name = .ok (some value) := by
  rw [queryPairs_queryOf hname]
  simp [queryField]

/-- An address with a query of one field is taken apart into its path and this query. -/
theorem splitTarget_of_field (start : String) {path : List Char}
    (hstart : start.toList = '/' :: path ++ '?' :: (name.toList ++ ['='])) (hpath : '?' ∉ path)
    (hfragment : '#' ∉ path) (value : String) :
    splitTarget (start ++ Percent.encodeStrict value) = ('/' :: path, queryOf name value) := by
  refine splitTarget_of_query ?_ hpath ?_
  · simp only [String.toList_append, hstart, queryOf, List.cons_append, List.append_assoc,
      List.nil_append]
  · rw [List.mem_append, not_or]
    exact ⟨hfragment, not_mem_queryOf hname rfl (by decide)⟩

end Reserved

end Http

end Rulebook
