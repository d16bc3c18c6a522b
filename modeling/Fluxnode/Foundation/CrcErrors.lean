import Fluxnode.Foundation.Crc

/-!
# Errors that a cyclic redundancy check detects

A word is a message with its check value behind it.  The words whose register
ends at zero are a linear code, so two of them differ by a word that is itself
in the code.  A short burst, an odd number of bits and two bits that are not too
far apart never are.
-/

namespace Fluxnode
namespace Crc

variable {w : Nat} {poly : BitVec w}

/-!
## Words
-/

/-- The register ends at zero. -/
def Codeword (poly : BitVec w) (word : List Bool) : Prop :=
  crcBits poly 0#w word = 0#w

def differing (bits bits' : List Bool) : Nat :=
  (List.zipWith xor bits bits').count true

/-- All that is not the same lies in a stretch of at most `n` bits. -/
def Burst (n : Nat) (bits bits' : List Bool) : Prop :=
  exists front a b back, bits = front ++ a ++ back ∧
    bits' = front ++ b ++ back ∧ a.length = b.length ∧ a.length ≤ n ∧ a ≠ b

theorem differing_append {a a' : List Bool} (h : a.length = a'.length)
    (b b' : List Bool) :
    differing (a ++ b) (a' ++ b') = differing a a' + differing b b' := by
  rw [differing, List.zipWith_append h, List.count_append]
  rfl

theorem Burst.append {n : Nat} {bits bits' : List Bool}
    (h : Burst n bits bits') (rest : List Bool) :
    Burst n (bits ++ rest) (bits' ++ rest) := by
  rcases h with ⟨front, a, b, back, rfl, rfl, hlength, hle, hne⟩
  exact ⟨front, a, b, back ++ rest, by simp, by simp, hlength, hle, hne⟩

/-!
## The register loses nothing
-/

/-- A polynomial with a constant term. -/
def HasConstant (poly : BitVec w) : Prop :=
  poly.getLsbD 0 = true

theorem HasConstant.pos (h : HasConstant poly) : 0 < w := by
  rcases Nat.eq_zero_or_pos w with hzero | hpos
  · subst hzero
    rw [HasConstant, BitVec.getLsbD_of_ge _ _ (Nat.le_refl 0)] at h
    cases h
  · exact hpos

theorem eq_zero_of_crcBit (hpoly : HasConstant poly) {c : BitVec w}
    (h : crcBit poly c false = 0#w) : c = 0#w := by
  have hpos := hpoly.pos
  rw [crcBit, Bool.xor_false] at h
  cases hmsb : c.msb with
  | true =>
      rw [if_pos hmsb] at h
      have hbit := congrArg (fun d : BitVec w => d.getLsbD 0) h
      have hconstant : poly.getLsbD 0 = true := hpoly
      rw [BitVec.getLsbD_xor, hconstant] at hbit
      simp at hbit
  | false =>
      rw [if_neg (by simp [hmsb])] at h
      apply BitVec.eq_of_getLsbD_eq
      intro i hi
      rcases Nat.lt_or_ge (i + 1) w with hlt | hge
      · have hbit := congrArg (fun d : BitVec w => d.getLsbD (i + 1)) h
        rw [BitVec.getLsbD_shiftLeft] at hbit
        simpa [hlt, hi] using hbit
      · have hlast : i = w - 1 := by lia
        rw [BitVec.msb_eq_getLsbD_last] at hmsb
        simpa [hlast] using hmsb

theorem xor_eq_zero {c d : BitVec w} (h : c ^^^ d = 0#w) : c = d := by
  have hcancel : c ^^^ d ^^^ d = c := by
    rw [BitVec.xor_assoc, BitVec.xor_self, BitVec.xor_zero]
  rw [← hcancel, h, BitVec.zero_xor]

theorem crcBit_injective (hpoly : HasConstant poly) {c d : BitVec w} {bit : Bool}
    (h : crcBit poly c bit = crcBit poly d bit) : c = d := by
  apply xor_eq_zero
  apply eq_zero_of_crcBit hpoly
  have hxor := crcBit_xor poly c d bit bit
  rw [Bool.xor_self] at hxor
  rw [hxor, h, BitVec.xor_self]

theorem crcBits_injective (hpoly : HasConstant poly) {bits : List Bool}
    {c d : BitVec w} (h : crcBits poly c bits = crcBits poly d bits) : c = d := by
  induction bits generalizing c d with
  | nil => exact h
  | cons b rest ih => exact crcBit_injective hpoly (ih h)

theorem crcBits_topBits_eq_zero (hpoly : HasConstant poly) {c d : BitVec w} :
    crcBits poly c (topBits w d) = 0#w <-> c = d := by
  have hself : crcBits poly d (topBits w d) = 0#w := by
    rw [crcBits_topBits, BitVec.shiftLeft_eq_zero (Nat.le_refl w)]
  constructor
  · intro h
    exact crcBits_injective hpoly (h.trans hself.symm)
  · intro h
    rw [h, hself]

theorem codeword_iff (hpoly : HasConstant poly) (bits : List Bool)
    (d : BitVec w) :
    Codeword poly (bits ++ topBits w d) <-> crcBits poly 0#w bits = d := by
  rw [Codeword, crcBits_append]
  exact crcBits_topBits_eq_zero hpoly

/-- What lies between two words of the code is in the code. -/
theorem Codeword.difference {word word' : List Bool} (h : Codeword poly word)
    (h' : Codeword poly word') (hlength : word.length = word'.length) :
    Codeword poly (List.zipWith xor word word') := by
  have hxor := crcBits_xor poly hlength 0#w 0#w
  rw [BitVec.xor_self] at hxor
  rw [Codeword, hxor, h, h', BitVec.xor_self]

/-!
## Bursts
-/

def LowSet (k : Nat) (c : BitVec w) : Prop :=
  exists i, i < k ∧ c.getLsbD i = true

theorem LowSet.ne_zero {k : Nat} {c : BitVec w} (h : LowSet k c) : c ≠ 0#w := by
  rcases h with ⟨i, -, hi⟩
  intro hzero
  rw [hzero] at hi
  simp at hi

theorem LowSet.crcBit (hpoly : HasConstant poly) {k : Nat} {c : BitVec w}
    (h : LowSet k c) (hk : k < w) (bit : Bool) :
    LowSet (k + 1) (crcBit poly c bit) := by
  have hpos := hpoly.pos
  have hconstant : poly.getLsbD 0 = true := hpoly
  unfold Crc.crcBit
  split
  · exact ⟨0, by lia, by simp [hpos, hconstant]⟩
  · rcases h with ⟨i, hi, hset⟩
    exact ⟨i + 1, by lia, by simp [show i + 1 < w by lia, hset]⟩

theorem LowSet.crcBits (hpoly : HasConstant poly) {bits : List Bool} {k : Nat}
    {c : BitVec w} (h : LowSet k c) (hle : k + bits.length ≤ w) :
    LowSet (k + bits.length) (crcBits poly c bits) := by
  induction bits generalizing k c with
  | nil => exact h
  | cons b rest ih =>
      rw [List.length_cons] at hle ⊢
      have hrest := ih (h.crcBit hpoly (by lia) b) (by lia)
      rw [Nat.add_comm rest.length 1, ← Nat.add_assoc]
      exact hrest

theorem crcBit_zero_false : crcBit poly 0#w false = 0#w := by
  rw [crcBit, Bool.xor_false, if_neg (by simp)]
  simp

theorem crcBit_zero_true : crcBit poly 0#w true = poly := by
  rw [crcBit, if_pos (by simp)]
  simp

theorem crcBits_zeros (n : Nat) :
    crcBits poly 0#w (List.replicate n false) = 0#w := by
  induction n with
  | zero => rfl
  | succ n ih =>
      rw [List.replicate_succ, crcBits_cons, crcBit_zero_false, ih]

/-- No message of at most `w` bits has the check value of zeros. -/
theorem crcBits_ne_zero (hpoly : HasConstant poly) {bits : List Bool}
    (hle : bits.length ≤ w) (htrue : true ∈ bits) : crcBits poly 0#w bits ≠ 0#w := by
  induction bits with
  | nil => cases htrue
  | cons b rest ih =>
      rw [List.length_cons] at hle
      rw [crcBits_cons]
      cases b with
      | false =>
          rw [crcBit_zero_false]
          exact ih (by lia) (by simpa using htrue)
      | true =>
          have hlow : LowSet 1 poly := ⟨0, Nat.one_pos, hpoly⟩
          have hfits : 1 + rest.length ≤ w := by lia
          rw [crcBit_zero_true]
          exact (hlow.crcBits hpoly hfits).ne_zero

theorem true_mem_zipWith_xor {a b : List Bool} (hlength : a.length = b.length)
    (hne : a ≠ b) : true ∈ List.zipWith xor a b := by
  induction a generalizing b with
  | nil =>
      cases b with
      | nil => exact absurd rfl hne
      | cons y ys => cases hlength
  | cons x xs ih =>
      cases b with
      | nil => cases hlength
      | cons y ys =>
          rw [List.zipWith_cons_cons]
          cases hxy : x ^^ y with
          | true => exact List.mem_cons_self
          | false =>
              have hsame : x = y := by simpa using hxy
              apply List.mem_cons_of_mem
              apply ih (Nat.succ.inj hlength)
              intro hrest
              exact hne (by rw [hsame, hrest])

theorem crcBits_ne_of_burst (hpoly : HasConstant poly) {bits bits' : List Bool}
    (h : Burst w bits bits') (c : BitVec w) :
    crcBits poly c bits ≠ crcBits poly c bits' := by
  rcases h with ⟨front, a, b, back, rfl, rfl, hlength, hle, hne⟩
  intro heq
  rw [crcBits_append, crcBits_append, crcBits_append, crcBits_append] at heq
  have hstretch := crcBits_injective hpoly heq
  have hxor := crcBits_xor poly hlength (crcBits poly c front)
    (crcBits poly c front)
  rw [BitVec.xor_self, hstretch, BitVec.xor_self] at hxor
  refine crcBits_ne_zero hpoly ?_ (true_mem_zipWith_xor hlength hne) hxor
  rw [List.length_zipWith, ← hlength, Nat.min_self]
  exact hle

theorem Codeword.not_of_burst (hpoly : HasConstant poly)
    {word word' : List Bool} (h : Codeword poly word)
    (hburst : Burst w word word') : ¬ Codeword poly word' := by
  intro h'
  exact crcBits_ne_of_burst hpoly hburst 0#w (Eq.trans h (Eq.symm h'))

/-!
## Odd numbers of bits
-/

def parity (bits : List Bool) : Bool :=
  bits.foldr xor false

theorem parity_append (a b : List Bool) :
    parity (a ++ b) = (parity a ^^ parity b) := by
  induction a with
  | nil => simp [parity]
  | cons x xs ih =>
      show (x ^^ parity (xs ++ b)) = ((x ^^ parity xs) ^^ parity b)
      rw [ih, Bool.xor_assoc]

theorem parity_zipWith {a b : List Bool} (hlength : a.length = b.length) :
    parity (List.zipWith xor a b) = (parity a ^^ parity b) := by
  induction a generalizing b with
  | nil =>
      cases b with
      | nil => rfl
      | cons y ys => cases hlength
  | cons x xs ih =>
      cases b with
      | nil => cases hlength
      | cons y ys =>
          show ((x ^^ y) ^^ parity (List.zipWith xor xs ys)) =
            ((x ^^ parity xs) ^^ (y ^^ parity ys))
          rw [ih (Nat.succ.inj hlength), Bool.xor_assoc, Bool.xor_assoc,
            Bool.xor_left_comm y]

theorem parity_eq_true_iff (bits : List Bool) :
    parity bits = true <-> bits.count true % 2 = 1 := by
  induction bits with
  | nil => simp [parity]
  | cons b rest ih =>
      show (b ^^ parity rest) = true <-> _
      cases b with
      | false =>
          rw [Bool.false_xor, ih, List.count_cons_of_ne (by simp)]
      | true =>
          rw [Bool.true_xor, List.count_cons_self]
          cases hrest : parity rest with
          | false =>
              have hcount : ¬ rest.count true % 2 = 1 := by
                intro h
                simp [ih.mpr h] at hrest
              simp
              lia
          | true =>
              have hcount := ih.mp hrest
              simp
              lia

def parityOf (c : BitVec w) : Bool :=
  parity (topBits w c)

theorem topBits_last (n : Nat) (c : BitVec w) :
    topBits (n + 1) c = topBits n c ++ [c.getMsbD n] := by
  simp [topBits, List.range_succ]

theorem parityOf_shiftLeft (c : BitVec w) :
    parityOf (c <<< 1) = (parityOf c ^^ c.msb) := by
  cases w with
  | zero =>
      have hzero : c.msb = false := by simp [BitVec.eq_nil c]
      rw [hzero]
      rfl
  | succ n =>
      have hlast : (c <<< 1).getMsbD n = false := by simp
      have hcons : parity (c.msb :: topBits n (c <<< 1)) =
          (c.msb ^^ parity (topBits n (c <<< 1))) := rfl
      rw [parityOf, topBits_last, hlast, parity_append, parityOf, topBits_succ,
        hcons]
      cases c.msb <;> cases parity (topBits n (c <<< 1)) <;> rfl

theorem parityOf_xor (c d : BitVec w) :
    parityOf (c ^^^ d) = (parityOf c ^^ parityOf d) := by
  rw [parityOf, ← zipWith_xor_topBits, parity_zipWith (by simp)]
  rfl

/-- A polynomial of even weight, whose leading term is not stored, keeps the
parity. -/
theorem parityOf_crcBit (hpoly : parityOf poly = true) (c : BitVec w)
    (bit : Bool) : parityOf (crcBit poly c bit) = (parityOf c ^^ bit) := by
  unfold crcBit
  cases hmsb : c.msb <;> cases bit
  · rw [if_neg (by simp), parityOf_shiftLeft, hmsb]
  · rw [if_pos (by simp), parityOf_xor, parityOf_shiftLeft, hmsb, hpoly,
      Bool.xor_false]
  · rw [if_pos (by simp), parityOf_xor, parityOf_shiftLeft, hmsb, hpoly,
      Bool.xor_assoc]
    rfl
  · rw [if_neg (by simp), parityOf_shiftLeft, hmsb]

theorem parityOf_crcBits (hpoly : parityOf poly = true) (c : BitVec w)
    (bits : List Bool) :
    parityOf (crcBits poly c bits) = (parityOf c ^^ parity bits) := by
  induction bits generalizing c with
  | nil => simp [crcBits, parity]
  | cons b rest ih =>
      rw [crcBits_cons, ih, parityOf_crcBit hpoly, Bool.xor_assoc]
      rfl

theorem parityOf_zero : parityOf 0#w = false := by
  have hxor := parityOf_xor 0#w 0#w
  rw [BitVec.xor_self, Bool.xor_self] at hxor
  exact hxor

theorem Codeword.parity_eq (hpoly : parityOf poly = true) {word : List Bool}
    (h : Codeword poly word) : parity word = false := by
  have hparity := parityOf_crcBits hpoly 0#w word
  rw [h, parityOf_zero, Bool.false_xor] at hparity
  exact hparity.symm

theorem Codeword.not_of_odd (hpoly : parityOf poly = true)
    {word word' : List Bool} (h : Codeword poly word)
    (hlength : word.length = word'.length)
    (hodd : differing word word' % 2 = 1) : ¬ Codeword poly word' := by
  intro h'
  have heven := (h.difference h' hlength).parity_eq hpoly
  rw [(parity_eq_true_iff _).mpr hodd] at heven
  cases heven

/-!
## Two bits
-/

/-- The register takes at least `n` steps to come back to the polynomial. -/
def Separates (poly : BitVec w) (n : Nat) : Prop :=
  forall k, k < n -> 0 < k ->
    crcBits poly poly (List.replicate k false) ≠ poly

instance (poly : BitVec w) (n : Nat) : Decidable (Separates poly n) :=
  inferInstanceAs (Decidable (forall k, k < n -> 0 < k -> _))

theorem eq_zeros {bits : List Bool} (h : bits.count true = 0) :
    bits = List.replicate bits.length false := by
  apply List.eq_replicate_of_mem
  intro b hb
  cases b with
  | false => rfl
  | true => exact absurd hb (List.count_eq_zero.mp h)

theorem split_true {bits : List Bool} {n : Nat} (h : bits.count true = n + 1) :
    exists k rest, bits = List.replicate k false ++ true :: rest ∧
      rest.count true = n := by
  induction bits with
  | nil => cases h
  | cons b rest ih =>
      cases b with
      | true =>
          rw [List.count_cons_self] at h
          exact ⟨0, rest, rfl, Nat.succ.inj h⟩
      | false =>
          rw [List.count_cons_of_ne (by simp)] at h
          rcases ih h with ⟨k, tail, hrest, htail⟩
          refine ⟨k + 1, tail, ?_, htail⟩
          rw [hrest, List.replicate_succ, List.cons_append]

theorem not_codeword_of_count_two (hpoly : HasConstant poly)
    {word : List Bool} (hsep : Separates poly word.length)
    (hcount : word.count true = 2) : ¬ Codeword poly word := by
  rcases split_true hcount with ⟨i, rest, hword, hrest⟩
  rcases split_true hrest with ⟨j, tail, hsecond, htail⟩
  intro h
  rw [Codeword, hword, crcBits_append, crcBits_zeros, crcBits_cons,
    crcBit_zero_true, hsecond, crcBits_append, crcBits_cons] at h
  have hzeros : crcBits poly 0#w tail = 0#w := by
    rw [eq_zeros htail]
    exact crcBits_zeros _
  have hlast : crcBit poly (crcBits poly poly (List.replicate j false)) true =
      0#w := crcBits_injective hpoly (h.trans hzeros.symm)
  have hxor := crcBit_xor poly
    (crcBits poly poly (List.replicate j false)) 0#w false true
  rw [BitVec.xor_zero, Bool.false_xor, hlast, crcBit_zero_true] at hxor
  have hback : crcBits poly poly (List.replicate (j + 1) false) = poly := by
    rw [List.replicate_succ', crcBits_append]
    exact xor_eq_zero hxor.symm
  refine hsep (j + 1) ?_ (Nat.succ_pos j) hback
  rw [hword, hsecond]
  simp only [List.length_append, List.length_replicate, List.length_cons]
  lia

theorem Codeword.not_of_two (hpoly : HasConstant poly)
    {word word' : List Bool} (hsep : Separates poly word.length)
    (h : Codeword poly word) (hlength : word.length = word'.length)
    (htwo : differing word word' = 2) : ¬ Codeword poly word' := by
  intro h'
  have hzip : (List.zipWith xor word word').length = word.length := by
    rw [List.length_zipWith, ← hlength, Nat.min_self]
  exact not_codeword_of_count_two hpoly (hzip ▸ hsep) htwo
    (h.difference h' hlength)

end Crc
end Fluxnode
