import Mathlib.Tactic.SplitIfs
import HostNet.Text.Utf8

/-!
Repair changes no octets that are UTF-8 already: it reads each encoded character whole, whatever
follows it.
-/

namespace HostNet.Utf8

variable {leading next third fourth : UInt8} {others rest : List UInt8} {n m : Nat} {c : Char}

theorem width?_ofNat (octet : n < 256) :
    width? (UInt8.ofNat n) =
      if n ≤ 0x7f then some 1
      else if 0xc2 ≤ n ∧ n ≤ 0xdf then some 2
      else if 0xe0 ≤ n ∧ n ≤ 0xef then some 3
      else if 0xf0 ≤ n ∧ n ≤ 0xf4 then some 4
      else none := by
  simp [width?, UInt8.le_iff_toNat_le, Nat.mod_eq_of_lt octet]

theorem isContinuation_ofNat (low : 0x80 ≤ n) (high : n ≤ 0xbf) :
    isContinuation (UInt8.ofNat n) = true := by
  have octet : n < 256 := by omega
  simp [isContinuation, UInt8.le_iff_toNat_le, Nat.mod_eq_of_lt octet, low, high]

theorem mayFollow_ofNat (octet : n < 256) (low : 0x80 ≤ m) (high : m ≤ 0xbf)
    (overlongThree : n = 0xe0 → 0xa0 ≤ m) (surrogate : n = 0xed → m ≤ 0x9f)
    (overlongFour : n = 0xf0 → 0x90 ≤ m) (past : n = 0xf4 → m ≤ 0x8f) :
    mayFollow (UInt8.ofNat n) (UInt8.ofNat m) = true := by
  have second : m < 256 := by omega
  simp only [mayFollow, isContinuation, UInt8.le_iff_toNat_le, ← UInt8.toNat_inj,
    UInt8.toNat_ofNat', Nat.mod_eq_of_lt octet, Nat.mod_eq_of_lt second, UInt8.reduceToNat]
  split_ifs <;> simp <;> omega

/-- Octets that belong together are read as one character. -/
theorem repair_character (width : width? leading = some (others.length + 1))
    (together : belonging leading (others ++ rest) = others.length)
    (value : scalar leading others = c.toNat) :
    repair (leading :: (others ++ rest)) = c :: repair rest := by
  rw [repair, together, if_pos width, List.take_left, List.drop_left, value, Char.ofNat_toNat]

theorem belonging_two (width : width? leading = some 2) (follows : mayFollow leading next = true) :
    belonging leading ([next] ++ rest) = 1 := by
  simp [belonging, width, follows]

theorem belonging_three (width : width? leading = some 3) (follows : mayFollow leading next = true)
    (continues : isContinuation third = true) :
    belonging leading ([next, third] ++ rest) = 2 := by
  simp [belonging, width, follows, continues]

theorem belonging_four (width : width? leading = some 4) (follows : mayFollow leading next = true)
    (continues : isContinuation third = true) (ends : isContinuation fourth = true) :
    belonging leading ([next, third, fourth] ++ rest) = 3 := by
  simp [belonging, width, follows, continues, ends]

theorem repair_one (high : c.toNat ≤ 0x7f) :
    repair ([UInt8.ofNat c.toNat] ++ rest) = c :: repair rest := by
  have octet : c.toNat < 256 := by omega
  have width : width? (UInt8.ofNat c.toNat) = some 1 := by
    rw [width?_ofNat octet, if_pos high]
  refine @repair_character _ [] rest c width ?_ ?_
  · cases rest <;> simp [belonging, width]
  · simp [scalar, Nat.mod_eq_of_lt octet]

theorem repair_two (low : 0x7f < c.toNat) (high : c.toNat ≤ 0x7ff) :
    repair ([UInt8.ofNat (c.toNat / 64 % 32 + 192), UInt8.ofNat (c.toNat % 64 + 128)] ++ rest) =
      c :: repair rest := by
  generalize leads : c.toNat / 64 % 32 + 192 = n
  generalize ends : c.toNat % 64 + 128 = m
  have width : width? (UInt8.ofNat n) = some 2 := by
    rw [width?_ofNat (by omega), if_neg (by omega), if_pos (by omega)]
  have follows : mayFollow (UInt8.ofNat n) (UInt8.ofNat m) = true := by
    apply mayFollow_ofNat <;> omega
  refine repair_character width (belonging_two width follows) ?_
  simp [scalar]
  omega

theorem repair_three (valid : c.toNat < 0xd800 ∨ 0xdfff < c.toNat) (low : 0x7ff < c.toNat)
    (high : c.toNat ≤ 0xffff) :
    repair ([UInt8.ofNat (c.toNat / 4096 % 16 + 224), UInt8.ofNat (c.toNat / 64 % 64 + 128),
      UInt8.ofNat (c.toNat % 64 + 128)] ++ rest) = c :: repair rest := by
  generalize leads : c.toNat / 4096 % 16 + 224 = n
  generalize middle : c.toNat / 64 % 64 + 128 = m
  generalize ends : c.toNat % 64 + 128 = k
  have width : width? (UInt8.ofNat n) = some 3 := by
    rw [width?_ofNat (by omega), if_neg (by omega), if_neg (by omega), if_pos (by omega)]
  have follows : mayFollow (UInt8.ofNat n) (UInt8.ofNat m) = true := by
    apply mayFollow_ofNat <;> omega
  have continues : isContinuation (UInt8.ofNat k) = true :=
    isContinuation_ofNat (by omega) (by omega)
  refine repair_character width (belonging_three width follows continues) ?_
  simp [scalar]
  omega

theorem repair_four (low : 0xffff < c.toNat) (high : c.toNat < 0x110000) :
    repair ([UInt8.ofNat (c.toNat / 262144 % 8 + 240), UInt8.ofNat (c.toNat / 4096 % 64 + 128),
      UInt8.ofNat (c.toNat / 64 % 64 + 128), UInt8.ofNat (c.toNat % 64 + 128)] ++ rest) =
      c :: repair rest := by
  generalize leads : c.toNat / 262144 % 8 + 240 = n
  generalize second : c.toNat / 4096 % 64 + 128 = m
  generalize middle : c.toNat / 64 % 64 + 128 = k
  generalize ends : c.toNat % 64 + 128 = l
  have width : width? (UInt8.ofNat n) = some 4 := by
    rw [width?_ofNat (by omega), if_neg (by omega), if_neg (by omega), if_neg (by omega),
      if_pos (by omega)]
  have follows : mayFollow (UInt8.ofNat n) (UInt8.ofNat m) = true := by
    apply mayFollow_ofNat <;> omega
  have continues : isContinuation (UInt8.ofNat k) = true :=
    isContinuation_ofNat (by omega) (by omega)
  have last : isContinuation (UInt8.ofNat l) = true :=
    isContinuation_ofNat (by omega) (by omega)
  refine repair_character width (belonging_four width follows continues last) ?_
  simp [scalar]
  omega

theorem repair_encodeChar (c : Char) (rest : List UInt8) :
    repair (String.utf8EncodeChar c ++ rest) = c :: repair rest := by
  have valid : c.toNat < 0xd800 ∨ (0xdfff < c.toNat ∧ c.toNat < 0x110000) := c.valid
  have number : c.val.toNat = c.toNat := rfl
  rw [String.utf8EncodeChar, number]
  by_cases one : c.toNat ≤ 0x7f
  · rw [if_pos one]
    exact repair_one one
  rw [if_neg one]
  by_cases two : c.toNat ≤ 0x7ff
  · rw [if_pos two]
    exact repair_two (by omega) two
  rw [if_neg two]
  by_cases three : c.toNat ≤ 0xffff
  · rw [if_pos three]
    exact repair_three (by omega) (by omega) three
  · rw [if_neg three]
    exact repair_four (by omega) (by omega)

theorem repair_encode (cs : List Char) : repair (encode cs) = cs := by
  induction cs with
  | nil => rw [encode, List.flatMap_nil, repair]
  | cons c cs ih =>
    rw [encode, List.flatMap_cons, repair_encodeChar]
    exact congrArg (c :: ·) ih

theorem ofString_eq_encode (s : String) : ofString s = encode s.toList := by
  have characters : s.toByteArray = s.toList.utf8Encode := by
    rw [← String.toByteArray_ofList, String.ofList_toList]
  rw [ofString, characters, List.utf8Encode, List.data_toByteArray, encode]

theorem decode?_ofString (s : String) : decode? (ofString s) = some s := by
  have valid : s.toByteArray.IsValidUTF8 := s.isValidUTF8
  change String.fromUTF8? s.toByteArray = some s
  rw [String.fromUTF8?, dif_pos valid]
  rfl

theorem ofString_of_decode? {octets : List UInt8} {s : String} (valid : decode? octets = some s) :
    ofString s = octets := by
  unfold decode? String.fromUTF8? at valid
  split at valid
  · cases valid
    rfl
  · cases valid

/-- Octets that are UTF-8 are repaired by reading them. -/
theorem ofString_repair {octets : List UInt8} {s : String} (valid : decode? octets = some s) :
    ofString (String.ofList (repair octets)) = octets := by
  have same := ofString_of_decode? valid
  rw [← same, ofString_eq_encode (String.ofList _), String.toList_ofList, ofString_eq_encode s,
    repair_encode]

/-- A character below 128 is one octet. -/
theorem length_encode_of_ascii {cs : List Char} (ascii : ∀ c ∈ cs, c.toNat < 128) :
    (encode cs).length = cs.length := by
  induction cs with
  | nil => rfl
  | cons c cs ih =>
    have small := ascii c List.mem_cons_self
    have first : c.utf8Size = 1 := by
      rw [Char.utf8Size_eq_one_iff, UInt32.le_iff_toNat_le]
      exact Nat.le_of_lt_succ small
    have others : (encode cs).length = cs.length :=
      ih fun c member => ascii c (List.mem_cons_of_mem _ member)
    rw [encode, List.flatMap_cons, List.length_append, String.length_utf8EncodeChar, first,
      List.length_cons, Nat.add_comm]
    exact congrArg (· + 1) others

end HostNet.Utf8
