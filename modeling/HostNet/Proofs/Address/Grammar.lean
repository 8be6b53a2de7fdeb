import HostNet.Proofs.Address.Foreign
import HostNet.Proofs.Text.Digits

/-!
The texts of addresses as a grammar, with the octets that each text denotes. The readers of dotted
quads and of groups accept what the grammar has, and nothing else.
-/

namespace HostNet

theorem Octets.ofList?_eq_some_iff {n : Nat} {bytes : List UInt8} {octets : Octets n} :
    Octets.ofList? bytes = some octets ↔ bytes = octets.toList := by
  constructor
  · intro found
    unfold Octets.ofList? at found
    split at found
    · cases found
      rfl
    · cases found
  · rintro rfl
    exact Octets.ofList?_toList octets

/-! ### Dotted quads -/

namespace DottedQuad

variable {c : Char} {cs : List Char} {b : UInt8} {octets : Octets 4}

/-- A decimal octet; it starts with a zero only if it is a single zero. -/
structure Part (cs : List Char) (b : UInt8) : Prop where
  value : Numeral.Denotes 10 cs b.toNat
  leading : cs.head? = some '0' → cs = ['0']

/-- Four decimal octets with dots between them. -/
def Denotes (cs : List Char) (octets : Octets 4) : Prop :=
  ∃ parts, List.Forall₂ Part parts octets.toList ∧ cs = Text.joined ['.'] parts

theorem head_zero_iff :
    (cs.head? = some '0' → cs.length = 1) ↔ (cs.head? = some '0' → cs = ['0']) := by
  refine forall_congr' fun zero => ?_
  cases cs with
  | nil => cases zero
  | cons c rest =>
    cases zero
    cases rest <;> simp

theorem octet?_eq_some_iff : octet? cs = some b ↔ Part cs b := by
  constructor
  · intro found
    unfold octet? at found
    split at found
    · cases found
    · rename_i n read
      split at found
      · rename_i allowed
        cases found
        have value : (UInt8.ofNat n).toNat = n := Nat.mod_eq_of_lt allowed.1
        refine ⟨?_, head_zero_iff.mp allowed.2⟩
        rw [value]
        exact (Numeral.read?_eq_some_iff (by decide)).mp read
      · cases found
  · intro part
    have read := (Numeral.read?_eq_some_iff (by decide)).mpr part.value
    simp only [octet?, read]
    rw [if_pos ⟨b.toNat_lt, head_zero_iff.mpr part.leading⟩, UInt8.ofNat_toNat]

theorem Part.not_mem (part : Part cs b) (foreign : Numeral.digit? 10 c = none) : c ∉ cs :=
  part.value.not_mem (by decide) foreign

theorem read?_eq_some_iff : read? cs = some octets ↔ Denotes cs octets := by
  constructor
  · intro found
    obtain ⟨bytes, parts, sized⟩ := Option.bind_eq_some_iff.mp found
    rw [Octets.ofList?_eq_some_iff.mp sized] at parts
    refine ⟨Text.fields '.' cs, ?_, (Text.joined_fields '.' cs).symm⟩
    exact (mapM_eq_some_iff.mp parts).imp fun _ _ => octet?_eq_some_iff.mp
  · rintro ⟨parts, each, rfl⟩
    have present : parts ≠ [] := by
      rintro rfl
      have four := each.length_eq
      rw [Vector.length_toList] at four
      cases four
    have apart : List.Forall₂ (fun part b => '.' ∉ part ∧ Part part b) parts octets.toList :=
      each.imp fun _ _ part => ⟨part.not_mem (by decide), part⟩
    have pointless : ∀ part ∈ parts, '.' ∉ part := ((List.forall₂_and_left _ _).mp apart).1
    have bytes : parts.mapM octet? = some octets.toList :=
      mapM_eq_some_iff.mpr (each.imp fun _ _ => octet?_eq_some_iff.mpr)
    rw [read?, Text.fields_joined present pointless, bytes]
    exact Octets.ofList?_toList octets

theorem Denotes.point_mem (denotes : Denotes cs octets) : '.' ∈ cs := by
  obtain ⟨parts, each, rfl⟩ := denotes
  apply Text.separator_mem_joined
  rw [each.length_eq, Vector.length_toList]
  decide

theorem Denotes.not_mem (denotes : Denotes cs octets) (point : c ≠ '.')
    (foreign : Numeral.digit? 10 c = none) : c ∉ cs := by
  intro member
  have refused := read?_of_foreign point foreign member
  rw [read?_eq_some_iff.mpr denotes] at refused
  cases refused

end DottedQuad

/-! ### Groups -/

namespace ColonGroups

variable {quad : Bool} {cs : List Char} {texts : List (List Char)} {bytes : List UInt8}
  {octets : Octets 16}

/-- One to four hexadecimal digits, for two octets. -/
inductive Group : List Char → List UInt8 → Prop
  | mk {cs : List Char} {high low : UInt8} :
    Numeral.Denotes 16 cs (high.toNat * 256 + low.toNat) → cs.length ≤ 4 → Group cs [high, low]

/-- The parts of a text and their octets, two for a group. If `quad` says so, the last part may be a
dotted quad instead. -/
inductive Parts (quad : Bool) : List (List Char) → List UInt8 → Prop
  | none : Parts quad [] []
  | dotted {cs : List Char} {octets : Octets 4} : quad = true → DottedQuad.Denotes cs octets →
    Parts quad [cs] octets.toList
  | group {cs : List Char} {texts : List (List Char)} {front back : List UInt8} :
    Group cs front → Parts quad texts back → Parts quad (cs :: texts) (front ++ back)

/-- Sixteen octets as parts with colons between them. All are written out, or those of one or more
zero groups in a row are left out, and a double colon stands in their place. -/
inductive Denotes : List Char → Octets 16 → Prop
  | whole {texts : List (List Char)} {octets : Octets 16} :
    Parts true texts octets.toList → Denotes (Text.joined [':'] texts) octets
  | elided {before after : List (List Char)} {front back : List UInt8} {zeros : Nat}
      {octets : Octets 16} : Parts false before front → Parts true after back → 0 < zeros →
    octets.toList = front ++ List.replicate (2 * zeros) 0 ++ back →
    Denotes (Text.joined [':'] before ++ ':' :: ':' :: Text.joined [':'] after) octets

theorem group?_eq_some_iff : group? cs = some bytes ↔ Group cs bytes := by
  constructor
  · intro found
    unfold group? at found
    split at found
    · cases found
    · rename_i n read
      split at found
      · rename_i short
        cases found
        have denotes := (Numeral.read?_eq_some_iff (by decide)).mp read
        have small : n < 65536 :=
          Nat.lt_of_lt_of_le denotes.lt_pow (Nat.pow_le_pow_right (by decide) short)
        have high : (UInt8.ofNat (n / 256)).toNat = n / 256 := Nat.mod_eq_of_lt (by omega)
        have low : (UInt8.ofNat (n % 256)).toNat = n % 256 := Nat.mod_eq_of_lt (by omega)
        refine .mk ?_ short
        rw [high, low, Nat.mul_comm, Nat.div_add_mod]
        exact denotes
      · cases found
  · rintro ⟨denotes, short⟩
    rename_i high low
    have read := (Numeral.read?_eq_some_iff (by decide)).mpr denotes
    have bound := low.toNat_lt
    have first : (high.toNat * 256 + low.toNat) / 256 = high.toNat := by omega
    have second : (high.toNat * 256 + low.toNat) % 256 = low.toNat := by omega
    simp only [group?, read, if_pos short, first, second, UInt8.ofNat_toNat]

theorem group?_of_dotted {octets : Octets 4} (denotes : DottedQuad.Denotes cs octets) :
    group? cs = none := by
  have unread : Numeral.read? 16 cs = none :=
    Numeral.read?_of_foreign denotes.point_mem (by decide)
  simp only [group?, unread]

theorem last?_eq_some_iff :
    last? cs = some bytes ↔
      Group cs bytes ∨ ∃ octets, DottedQuad.Denotes cs octets ∧ bytes = octets.toList := by
  constructor
  · intro found
    unfold last? at found
    split at found
    · rename_i octets read
      cases found
      exact .inl (group?_eq_some_iff.mp read)
    · obtain ⟨octets, read, same⟩ := Option.map_eq_some_iff.mp found
      exact .inr ⟨octets, DottedQuad.read?_eq_some_iff.mp read, same.symm⟩
  · rintro (group | ⟨octets, denotes, rfl⟩)
    · simp only [last?, group?_eq_some_iff.mpr group]
    · simp only [last?, group?_of_dotted denotes, DottedQuad.read?_eq_some_iff.mpr denotes,
        Option.map_some]

theorem Parts.single (group : Group cs bytes) : Parts quad [cs] bytes := by
  have parts : Parts quad [cs] (bytes ++ []) := .group group .none
  rwa [List.append_nil] at parts

theorem parts_of_parts? (found : parts? quad texts = some bytes) : Parts quad texts bytes := by
  fun_induction parts? quad texts generalizing bytes with
  | case1 =>
    cases found
    exact .none
  | case2 cs allowed =>
    rcases last?_eq_some_iff.mp found with group | ⟨octets, denotes, rfl⟩
    · exact .single group
    · exact .dotted allowed denotes
  | case3 cs => exact .single (group?_eq_some_iff.mp found)
  | case4 cs rest _ octets others readRest readFirst ih =>
    cases found
    exact .group (group?_eq_some_iff.mp readFirst) (ih readRest)
  | case5 => cases found

theorem parts?_of_parts (parts : Parts quad texts bytes) : parts? quad texts = some bytes := by
  induction parts with
  | none => rfl
  | dotted allowed denotes =>
    rw [allowed]
    exact last?_eq_some_iff.mpr (.inr ⟨_, denotes, rfl⟩)
  | @group cs texts front back group rest ih =>
    have read := group?_eq_some_iff.mpr group
    cases texts with
    | nil =>
      cases ih
      rw [List.append_nil]
      cases quad with
      | true => exact last?_eq_some_iff.mpr (.inl group)
      | false => exact read
    | cons next texts => rw [parts?_cons read (List.cons_ne_nil _ _), ih, Option.map_some]

theorem Group.clean (group : Group cs bytes) : Clean [cs] := by
  cases group with
  | mk denotes short =>
    intro text member
    rw [List.mem_singleton.mp member]
    exact ⟨denotes.ne_nil, denotes.not_mem (by decide) (by decide)⟩

theorem Parts.clean (parts : Parts quad texts bytes) : Clean texts := by
  induction parts with
  | none => exact fun _ member => absurd member List.not_mem_nil
  | dotted _ denotes =>
    intro text member
    rw [List.mem_singleton.mp member]
    exact ⟨List.ne_nil_of_mem denotes.point_mem, denotes.not_mem (by decide) (by decide)⟩
  | group group _ ih => exact group.clean.append ih

theorem Parts.even (parts : Parts quad texts bytes) : bytes.length % 2 = 0 := by
  induction parts with
  | none => rfl
  | dotted => rw [Vector.length_toList]
  | group group _ ih =>
    cases group
    simp only [List.length_append, List.length_cons, List.length_nil]
    omega

theorem side?_of_parts (parts : Parts quad texts bytes) :
    side? quad (Text.joined [':'] texts) = some bytes := by
  rw [side?_joined quad parts.clean]
  exact parts?_of_parts parts

theorem parts_of_side? (found : side? quad cs = some bytes) :
    ∃ texts, Parts quad texts bytes ∧ cs = Text.joined [':'] texts := by
  cases cs with
  | nil =>
    cases found
    exact ⟨[], .none, rfl⟩
  | cons c cs =>
    exact ⟨Text.fields ':' (c :: cs), parts_of_parts? found, (Text.joined_fields ':' _).symm⟩

/-- The zero groups of a double colon: as many octets as are missing, which are never odd in
number. -/
theorem zeros_of_even {front back : List UInt8} (evenFront : front.length % 2 = 0)
    (evenBack : back.length % 2 = 0) (room : front.length + back.length ≤ 14) :
    ∃ zeros, 0 < zeros ∧ 16 - (front.length + back.length) = 2 * zeros :=
  ⟨(16 - (front.length + back.length)) / 2, by omega, by omega⟩

theorem denotes_of_read? (found : read? cs = some octets) : Denotes cs octets := by
  unfold read? at found
  split at found
  · obtain ⟨bytes, side, sized⟩ := Option.bind_eq_some_iff.mp found
    rw [Octets.ofList?_eq_some_iff.mp sized] at side
    obtain ⟨texts, parts, rfl⟩ := parts_of_side? side
    exact .whole parts
  · rename_i before after split
    cases first : side? false before with
    | none => simp [first] at found
    | some front =>
      cases second : side? true after with
      | none => simp [first, second] at found
      | some back =>
        simp only [first, second] at found
        split at found
        · rename_i room
          obtain ⟨texts, parts, rfl⟩ := parts_of_side? first
          obtain ⟨others, rest, rfl⟩ := parts_of_side? second
          obtain ⟨zeros, some, missing⟩ := zeros_of_even parts.even rest.even room
          rw [missing] at found
          rw [splitAtElision_eq_some split]
          exact .elided parts rest some (Octets.ofList?_eq_some_iff.mp found).symm
        · cases found

theorem read?_of_denotes (denotes : Denotes cs octets) : read? cs = some octets := by
  cases denotes with
  | whole parts =>
    rw [read?, splitAtElision_whole parts.clean]
    simp only [side?_of_parts parts]
    exact Octets.ofList?_toList octets
  | @elided before after front back zeros _ parts rest some filled =>
    have length := congrArg List.length filled
    simp only [Vector.length_toList, List.length_append, List.length_replicate] at length
    have room : front.length + back.length ≤ 14 := by omega
    have missing : 16 - (front.length + back.length) = 2 * zeros := by omega
    rw [read?, splitAtElision_elided parts.clean]
    simp only [side?_of_parts parts, side?_of_parts rest, if_pos room, missing, ← filled]
    exact Octets.ofList?_toList octets

theorem read?_eq_some_iff : read? cs = some octets ↔ Denotes cs octets :=
  ⟨denotes_of_read?, read?_of_denotes⟩

end ColonGroups

end HostNet
