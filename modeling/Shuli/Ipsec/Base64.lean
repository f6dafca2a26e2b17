import Mathlib.Data.Nat.Bitwise
import Shuli.Fallible
import Shuli.Ipsec.Config

/-!
The base64 of PEM bodies (`cert.rs`) beside RFC 4648. A group is four octets; `=` is octet 61.
-/

namespace Shuli.Ipsec

def base64Digit (byte : UInt8) : Option Nat :=
  if 65 ≤ byte ∧ byte ≤ 90 then some (byte - 65).toNat
  else if 97 ≤ byte ∧ byte ≤ 122 then some (byte - 97 + 26).toNat
  else if 48 ≤ byte ∧ byte ≤ 57 then some (byte - 48 + 52).toNat
  else if byte = 43 then some 62
  else if byte = 47 then some 63
  else none

def base64Padded (byte : UInt8) : Option Nat := if byte = 61 then some 0 else base64Digit byte

def base64Group (a b c d : UInt8) : Option Octets := do
  let first ← base64Digit a
  let second ← base64Digit b
  let third ← base64Padded c
  let fourth ← base64Padded d
  let value := first <<< 18 ||| second <<< 12 ||| third <<< 6 ||| fourth
  return UInt8.ofNat (value >>> 16) :: ((if c ≠ 61 then [UInt8.ofNat (value >>> 8)] else []) ++
    if d ≠ 61 then [UInt8.ofNat value] else [])

def base64Groups : Octets → Option Octets
  | a :: b :: c :: d :: rest => return (← base64Group a b c d) ++ (← base64Groups rest)
  | _ => some []

def base64Decode (bytes : Octets) : Except IpsecError Octets :=
  if bytes.length % 4 ≠ 0 then .error ⟨.certificate, "invalid base64 length"⟩
  else orThrow (base64Groups bytes) ⟨.certificate, "invalid base64"⟩

/-- What `parse_pem` leaves of the text between two markers. -/
def pemBody (text : String) : Octets := asBytes (String.ofList (text.toList.filter fun char => !isWhitespace char))

/-! RFC 4648 -/

def base64Char (value : Nat) : UInt8 :=
  if value < 26 then UInt8.ofNat (65 + value)
  else if value < 52 then UInt8.ofNat (71 + value)
  else if value < 62 then UInt8.ofNat (value - 4)
  else if value = 62 then 43
  else 47

def base64Encode : Octets → Octets
  | [] => []
  | [a] => [base64Char (a.toNat / 4), base64Char (a.toNat % 4 * 16), 61, 61]
  | [a, b] => [base64Char (a.toNat / 4), base64Char (a.toNat % 4 * 16 + b.toNat / 16), base64Char (b.toNat % 16 * 4), 61]
  | a :: b :: c :: rest => base64Char (a.toNat / 4) :: base64Char (a.toNat % 4 * 16 + b.toNat / 16) ::
      base64Char (b.toNat % 16 * 4 + c.toNat / 64) :: base64Char (c.toNat % 64) :: base64Encode rest

/-- Only digits and padding stand where the decoder expects them. -/
def Spelled : Octets → Prop
  | a :: b :: c :: d :: rest => (base64Digit a).isSome ∧ (base64Digit b).isSome ∧ (base64Padded c).isSome ∧
      (base64Padded d).isSome ∧ Spelled rest
  | rest => rest = []

/-- Padding ends the text, and the bits it cuts off are zero. -/
def Canonical : Octets → Prop
  | _ :: b :: c :: d :: rest =>
    if c = 61 then d = 61 ∧ rest = [] ∧ (base64Digit b).all (· % 16 = 0)
    else if d = 61 then rest = [] ∧ (base64Digit c).all (· % 4 = 0)
    else Canonical rest
  | _ => True

theorem base64Digit_char {value : Nat} (small : value < 64) :
    base64Digit (base64Char value) = some value ∧ base64Padded (base64Char value) = some value ∧
      base64Char value ≠ 61 := by
  have all : ∀ value : Fin 64, base64Digit (base64Char value) = some value.val ∧
      base64Padded (base64Char value) = some value.val ∧ base64Char value ≠ 61 := by decide
  exact all ⟨value, small⟩

theorem base64Char_digit {byte : UInt8} {value : Nat} (digit : base64Digit byte = some value) :
    byte = base64Char value ∧ value < 64 := by
  have all : ∀ number : Fin 256, ∀ value ∈ base64Digit (UInt8.ofNat number),
      UInt8.ofNat number = base64Char value ∧ value < 64 := by decide +kernel
  have found := all ⟨byte.toNat, byte.toNat_lt⟩ value
  rw [UInt8.ofNat_toNat] at found
  exact found digit

theorem base64Padded_lt {byte : UInt8} {value : Nat} (read : base64Padded byte = some value) : value < 64 := by
  unfold base64Padded at read
  split at read
  · cases read
    decide
  · exact (base64Char_digit read).2

theorem or_shift {high low bits : Nat} (small : low < 2 ^ bits) : high <<< bits ||| low = high * 2 ^ bits + low := by
  rw [← Nat.shiftLeft_add_eq_or_of_lt small, Nat.shiftLeft_eq]

theorem eq_nil_of_short {text : Octets} (whole : text.length % 4 = 0)
    (short : ∀ a b c d rest, text = a :: b :: c :: d :: rest → False) : text = [] := by
  match text, short with
  | [], _ => rfl
  | [_], _ => simp at whole
  | [_, _], _ => simp at whole
  | [_, _, _], _ => simp at whole
  | a :: b :: c :: d :: rest, short => exact (short a b c d rest rfl).elim

variable {a b c d : UInt8} {w x y z : Nat} {rest : Octets}

theorem base64Group_eq (one : base64Digit a = some w) (two : base64Digit b = some x) (three : base64Padded c = some y)
    (four : base64Padded d = some z) :
    base64Group a b c d = some (UInt8.ofNat (w * 4 + x / 16) ::
      ((if c ≠ 61 then [UInt8.ofNat (x % 16 * 16 + y / 4)] else []) ++
        if d ≠ 61 then [UInt8.ofNat (y % 4 * 64 + z)] else [])) := by
  have low := (base64Char_digit two).2
  have mid := base64Padded_lt three
  have last := base64Padded_lt four
  have value : w <<< 18 ||| x <<< 12 ||| y <<< 6 ||| z = w * 2 ^ 18 + (x * 2 ^ 12 + (y * 2 ^ 6 + z)) := by
    rw [Nat.or_assoc, Nat.or_assoc, @or_shift y z 6 last, @or_shift x _ 12 (by omega), or_shift (by omega)]
  simp only [base64Group, one, two, three, four, Option.bind_eq_bind,
    Option.bind_some]
  congr 3
  · omega
  · congr 2
    exact UInt8.toNat_inj.mp (by rw [UInt8.toNat_ofNat', UInt8.toNat_ofNat']; omega)
  · congr 2
    exact UInt8.toNat_inj.mp (by rw [UInt8.toNat_ofNat', UInt8.toNat_ofNat']; omega)

theorem base64Groups_isSome (text : Octets) (whole : text.length % 4 = 0) :
    (base64Groups text).isSome ↔ Spelled text := by
  induction text using base64Groups.induct with
  | case1 a b c d rest ih =>
    have tail := ih (by simp at whole; omega)
    cases one : base64Digit a <;> cases two : base64Digit b <;> cases three : base64Padded c <;>
      cases four : base64Padded d <;> cases rest : base64Groups rest <;>
        simp_all [base64Groups, base64Group, Spelled]
  | case2 text short =>
    obtain rfl := eq_nil_of_short whole short
    simp [base64Groups, Spelled]

theorem base64Encode_read (octets : Octets) : (base64Encode octets).length % 4 = 0 ∧
    Canonical (base64Encode octets) ∧ base64Groups (base64Encode octets) = some octets := by
  have octet {value : Nat} (byte : UInt8) (same : value = byte.toNat) : UInt8.ofNat value = byte :=
    same ▸ UInt8.ofNat_toNat
  induction octets using base64Encode.induct with
  | case1 => exact ⟨rfl, trivial, rfl⟩
  | case2 a =>
    have bound := a.toNat_lt
    have one := base64Digit_char (show a.toNat / 4 < 64 by omega)
    have two := base64Digit_char (show a.toNat % 4 * 16 < 64 by omega)
    rw [base64Encode]
    refine ⟨by simp, by simp [Canonical, two], ?_⟩
    rw [base64Groups, base64Group_eq one.1 two.1 rfl rfl, octet a (by omega)]
    rfl
  | case3 a b =>
    have bound := a.toNat_lt
    have bound' := b.toNat_lt
    have one := base64Digit_char (show a.toNat / 4 < 64 by omega)
    have two := base64Digit_char (show a.toNat % 4 * 16 + b.toNat / 16 < 64 by omega)
    have three := base64Digit_char (show b.toNat % 16 * 4 < 64 by omega)
    rw [base64Encode]
    refine ⟨by simp, by simp [Canonical, three], ?_⟩
    rw [base64Groups, base64Group_eq one.1 two.1 three.2.1 rfl, octet a (by omega), if_pos three.2.2, octet b (by omega)]
    rfl
  | case4 a b c rest ih =>
    have bounds := And.intro a.toNat_lt (And.intro b.toNat_lt c.toNat_lt)
    have one := base64Digit_char (show a.toNat / 4 < 64 by omega)
    have two := base64Digit_char (show a.toNat % 4 * 16 + b.toNat / 16 < 64 by omega)
    have three := base64Digit_char (show b.toNat % 16 * 4 + c.toNat / 64 < 64 by omega)
    have four := base64Digit_char (show c.toNat % 64 < 64 by omega)
    rw [base64Encode]
    refine ⟨by simp [ih.1, Nat.add_assoc], by simp [Canonical, three, four, ih], ?_⟩
    rw [base64Groups, base64Group_eq one.1 two.1 three.2.1 four.2.1, octet a (by omega),
      if_pos three.2.2, octet b (by omega), if_pos four.2.2, octet c (by omega), ih.2.2]
    rfl

theorem eq_base64Encode {text octets : Octets} (whole : text.length % 4 = 0) (canonical : Canonical text)
    (read : base64Groups text = some octets) : text = base64Encode octets := by
  induction text using base64Groups.induct generalizing octets with
  | case1 a b c d rest ih =>
    have spelled := (base64Groups_isSome _ whole).mp (Option.isSome_of_eq_some read)
    simp only [Spelled, Option.isSome_iff_exists] at spelled
    obtain ⟨⟨w, one⟩, ⟨x, two⟩, ⟨y, three⟩, ⟨z, four⟩, _⟩ := spelled
    rw [base64Groups, base64Group_eq one two three four] at read
    simp only [Option.bind_eq_bind, Option.bind_some, Option.bind_eq_some_iff, Option.pure_def, Option.some.injEq] at read
    obtain ⟨tail, more, rfl⟩ := read
    obtain ⟨rfl, _⟩ := base64Char_digit one
    have low := (base64Char_digit two).2
    have mid := base64Padded_lt three
    have last := base64Padded_lt four
    rw [Canonical] at canonical
    split_ifs at canonical with pair triple
    · obtain ⟨rfl, rfl, cut⟩ := canonical
      cases more
      rw [two, Option.all_some, decide_eq_true_eq] at cut
      simp only [(base64Char_digit two).1, pair, ne_eq, not_true_eq_false, if_false, List.append_nil, base64Encode,
        UInt8.toNat_ofNat', List.cons.injEq, and_true]
      exact ⟨congrArg _ (by omega), congrArg _ (by omega)⟩
    · obtain ⟨rfl, cut⟩ := canonical
      cases more
      rw [base64Padded, if_neg pair] at three
      rw [three, Option.all_some, decide_eq_true_eq] at cut
      simp only [pair, triple, ne_eq, not_true_eq_false, not_false_eq_true, if_false, if_true, List.append_nil,
        base64Encode, UInt8.toNat_ofNat', List.cons.injEq, and_true]
      rw [(base64Char_digit two).1, (base64Char_digit three).1]
      exact ⟨congrArg _ (by omega), congrArg _ (by omega), congrArg _ (by omega)⟩
    · rw [base64Padded, if_neg pair] at three
      rw [base64Padded, if_neg triple] at four
      simp only [pair, triple, ne_eq, not_false_eq_true, if_true, List.cons_append, List.nil_append, base64Encode,
        UInt8.toNat_ofNat', List.cons.injEq]
      rw [(base64Char_digit two).1, (base64Char_digit three).1, (base64Char_digit four).1]
      exact ⟨congrArg _ (by omega), congrArg _ (by omega), congrArg _ (by omega), congrArg _ (by omega),
        ih (by simp at whole; omega) canonical more⟩
  | case2 text short =>
    obtain rfl := eq_nil_of_short whole short
    cases read
    rfl

/-- A body reads as the octets it encodes and only so, exactly if it does not spell something that no
encoder writes. -/
theorem base64_exact_iff (text : String) :
    (∀ octets, pemBody text = base64Encode octets → base64Decode (pemBody text) = .ok octets) ∧
      (∀ octets, base64Decode (pemBody text) = .ok octets → pemBody text = base64Encode octets) ↔
    ((pemBody text).length % 4 = 0 → Spelled (pemBody text) → Canonical (pemBody text)) := by
  generalize pemBody text = body
  have decoded {octets : Octets} : base64Decode body = .ok octets ↔
      body.length % 4 = 0 ∧ base64Groups body = some octets := by
    unfold base64Decode
    split_ifs with whole
    · simp [whole]
    · simp only [not_not] at whole
      rw [orThrow_eq_ok, and_iff_right whole]
  simp only [decoded]
  constructor
  · intro exact whole spelled
    obtain ⟨octets, read⟩ := Option.isSome_iff_exists.mp ((base64Groups_isSome body whole).mpr spelled)
    rw [exact.2 octets ⟨whole, read⟩]
    exact (base64Encode_read octets).2.1
  · intro canonical
    refine ⟨?_, fun octets read => ?_⟩
    · rintro octets rfl
      exact ⟨(base64Encode_read octets).1, (base64Encode_read octets).2.2⟩
    · have spelled := (base64Groups_isSome body read.1).mp (Option.isSome_of_eq_some read.2)
      exact eq_base64Encode read.1 (canonical read.1 spelled) read.2

/-- Bits behind the octet, and octets behind the padding. -/
theorem base64_reads_noncanonical :
    base64Decode (pemBody "QR==") = .ok [65] ∧ base64Encode [65] ≠ pemBody "QR==" ∧
      base64Decode (pemBody "QQ==\nQQ==") = .ok [65, 65] ∧ base64Encode [65, 65] ≠ pemBody "QQ==\nQQ==" := by
  decide +kernel

end Shuli.Ipsec
