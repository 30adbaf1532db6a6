import DocLoad.Proofs.Text.Digits

/-!
# DocLoad.Proofs.Number.Numerals — which texts are numerals

The texts of numerals make a grammar over a class of digits: an optional sign, digits with at most
one point among or around them, and an optional exponent (`Numeral.Written`).  An optional sign with
ASCII digits behind it writes an integer (`Text.WritesInt`).

* `Text.readInt_eq_some` — the reader of integers finds the integer that is written;
* `Numeral.isSome_read_iff` — the reader of numerals accepts exactly the grammar over ASCII digits;
* `Numeral.bind_toInt?_read` — the numerals that are integers are those the reader of integers
  accepts, with the same number;
* `Numeral.ofText?_eq_none` — over a wider class of digits, whatever is a numeral and not one in
  ASCII digits is no number at all, not one with a name either.
-/

namespace DocLoad

/-! ## The grammar of numerals -/

namespace Numeral

/-- An optional sign. -/
inductive IsSign : List Char → Prop where
  | absent : IsSign []
  | plus : IsSign ['+']
  | minus : IsSign ['-']

section

variable (digit : Char → Bool)

/-- Digits of a class, one or more. -/
def Digits (cs : List Char) : Prop :=
  cs ≠ [] ∧ ∀ c ∈ cs, digit c = true

/-- Digits with at most one point among or around them. -/
inductive Significand : List Char → Prop where
  | whole {ds : List Char} (hds : Digits digit ds) : Significand ds
  | point {ds fraction : List Char} (hds : Digits digit ds)
      (hfraction : ∀ c ∈ fraction, digit c = true) : Significand (ds ++ '.' :: fraction)
  | fraction {ds : List Char} (hds : Digits digit ds) : Significand ('.' :: ds)

/-- An optional exponent. -/
inductive Exponent : List Char → Prop where
  | absent : Exponent []
  | present {e : Char} {s ds : List Char} (he : e = 'e' ∨ e = 'E') (hs : IsSign s)
      (hds : Digits digit ds) : Exponent (e :: (s ++ ds))

/-- The texts of numerals over a class of digits. -/
def Written (cs : List Char) : Prop :=
  ∃ s m e, IsSign s ∧ Significand digit m ∧ Exponent digit e ∧ cs = s ++ (m ++ e)

end

end Numeral

/-- An optional sign and digits, and the integer that they write. -/
inductive Text.WritesInt : List Char → Int → Prop where
  | bare {ds : List Char} (hds : Numeral.Digits isDigit ds) : WritesInt ds (decimalValue ds)
  | plus {ds : List Char} (hds : Numeral.Digits isDigit ds) :
    WritesInt ('+' :: ds) (decimalValue ds)
  | minus {ds : List Char} (hds : Numeral.Digits isDigit ds) :
    WritesInt ('-' :: ds) (-decimalValue ds)

/-! ## Integers -/

namespace Text

open Numeral

theorem toNat_le_of_isDigit {c : Char} (h : isDigit c = true) : c.toNat ≤ 57 := by
  rw [isDigit, Bool.and_eq_true, decide_eq_true_eq, decide_eq_true_eq] at h
  exact h.2

/-- The texts that are read as natural numbers are those of digits, one or more. -/
theorem readDecimal_eq_some {cs : List Char} {n : Nat} :
    readDecimal cs = some n ↔ Digits isDigit cs ∧ decimalValue cs = n := by
  unfold readDecimal
  rw [Digits, ← List.all_eq_true]
  cases cs with
  | nil => simp
  | cons c cs => cases (c :: cs).all isDigit <;> simp

/-- A natural number that is mapped as an integer. -/
theorem map_natCast (f : Int → Int) (o : Option Nat) :
    Option.map f (do return ((← o : Nat) : Int)) = o.map fun n : Nat => f n := by
  cases o <;> rfl

/-- An integer is a natural number behind an optional sign. -/
theorem readInt_eq_sign (cs : List Char) :
    readInt cs =
      (readDecimal (sign cs).2).map fun n : Nat => if (sign cs).1 then -(n : Int) else n := by
  unfold readInt
  split
  · exact map_natCast (-·) _
  · exact map_natCast id _
  · next hminus hplus =>
    have hsign : sign cs = (false, cs) := by
      unfold sign
      split
      · exact absurd rfl (hminus _)
      · exact absurd rfl (hplus _)
      · rfl
    rw [hsign]
    exact map_natCast id _

/-- The texts that are read as integers are digits behind an optional sign. -/
theorem readInt_eq_some {cs : List Char} {n : Int} : readInt cs = some n ↔ WritesInt cs n := by
  constructor
  · intro h
    rw [readInt_eq_sign] at h
    rcases Option.map_eq_some_iff.mp h with ⟨m, hm, rfl⟩
    rcases readDecimal_eq_some.mp hm with ⟨hds, rfl⟩
    revert hds
    unfold sign
    split
    · exact .minus
    · exact .plus
    · exact .bare
  · intro h
    cases h with
    | @bare ds hds =>
      have hread := readDecimal_eq_some.mpr ⟨hds, rfl⟩
      rcases List.exists_cons_of_ne_nil hds.1 with ⟨d, rest, rfl⟩
      rw [readInt_of_digit (hds.2 d List.mem_cons_self), hread]
      rfl
    | plus hds =>
      rw [readInt, readDecimal_eq_some.mpr ⟨hds, rfl⟩]
      rfl
    | minus hds =>
      rw [readInt, readDecimal_eq_some.mpr ⟨hds, rfl⟩]
      rfl

/-- The reader of integers accepts an optional sign with digits behind it. -/
theorem isSome_readInt_iff {cs : List Char} :
    (readInt cs).isSome = true ↔ ∃ s ds, IsSign s ∧ Digits isDigit ds ∧ cs = s ++ ds := by
  constructor
  · intro h
    rcases Option.isSome_iff_exists.mp h with ⟨n, hn⟩
    cases readInt_eq_some.mp hn with
    | bare hds => exact ⟨[], cs, .absent, hds, rfl⟩
    | plus hds => exact ⟨['+'], _, .plus, hds, rfl⟩
    | minus hds => exact ⟨['-'], _, .minus, hds, rfl⟩
  · rintro ⟨s, ds, hs, hds, rfl⟩
    rw [Option.isSome_iff_exists]
    cases hs with
    | absent => exact ⟨_, readInt_eq_some.mpr (.bare hds)⟩
    | plus => exact ⟨_, readInt_eq_some.mpr (.plus hds)⟩
    | minus => exact ⟨_, readInt_eq_some.mpr (.minus hds)⟩

/-- Every text has digits in front, if only none. -/
theorem exists_span (cs : List Char) :
    ∃ ds rest, (∀ c ∈ ds, isDigit c = true) ∧ (∀ c ∈ rest.head?, isDigit c = false) ∧
      cs = ds ++ rest := by
  induction cs with
  | nil => exact ⟨[], [], nofun, nofun, rfl⟩
  | cons c cs ih =>
    cases hc : isDigit c with
    | true =>
      rcases ih with ⟨ds, rest, hds, hrest, rfl⟩
      exact ⟨c :: ds, rest, List.forall_mem_cons.mpr ⟨hc, hds⟩, hrest, rfl⟩
    | false =>
      refine ⟨[], c :: cs, nofun, ?_, rfl⟩
      rintro d ⟨⟩
      exact hc

end Text

/-! ## Numerals -/

namespace Numeral

open Text

/-- Every text has an optional sign in front. -/
theorem exists_sign (cs : List Char) : ∃ s, IsSign s ∧ cs = s ++ (sign cs).2 := by
  unfold sign
  split
  · exact ⟨['-'], .minus, rfl⟩
  · exact ⟨['+'], .plus, rfl⟩
  · exact ⟨[], .absent, rfl⟩

/-- The exponents that can be read are those of the grammar. -/
theorem isSome_readExponent_iff {cs : List Char} :
    (readExponent cs).isSome = true ↔ Exponent isDigit cs := by
  cases cs with
  | nil => exact ⟨fun _ => .absent, fun _ => rfl⟩
  | cons c cs =>
    rw [readExponent]
    constructor
    · intro h
      split at h
      · next hc =>
        rw [Option.isSome_map, isSome_readInt_iff] at h
        rcases h with ⟨s, ds, hs, hds, rfl⟩
        exact .present hc hs hds
      · cases h
    · rintro (_ | ⟨hc, hs, hds⟩)
      rw [if_pos hc, Option.isSome_map]
      exact isSome_readInt_iff.mpr ⟨_, _, hs, hds, rfl⟩

/-- An exponent starts with its letter. -/
theorem Exponent.head {digit : Char → Bool} {cs : List Char} (h : Exponent digit cs) :
    ∀ c ∈ cs.head?, c = 'e' ∨ c = 'E' := by
  cases h with
  | absent => nofun
  | present he =>
    rintro c ⟨⟩
    exact he

/-- A significand starts with a digit or a point. -/
theorem Significand.head {digit : Char → Bool} {m : List Char} (h : Significand digit m)
    (rest : List Char) : ∃ c cs, m ++ rest = c :: cs ∧ (digit c = true ∨ c = '.') := by
  cases h with
  | whole hds =>
    rcases List.exists_cons_of_ne_nil hds.1 with ⟨d, ds, rfl⟩
    exact ⟨d, _, rfl, .inl (hds.2 d List.mem_cons_self)⟩
  | point hds =>
    rcases List.exists_cons_of_ne_nil hds.1 with ⟨d, ds, rfl⟩
    exact ⟨d, _, rfl, .inl (hds.2 d List.mem_cons_self)⟩
  | fraction hds => exact ⟨'.', _, rfl, .inr rfl⟩

/-- Behind the optional sign of a numeral stands its significand, which has no sign in front. -/
theorem sign_append_significand {digit : Char → Bool} (hminus : digit '-' = false)
    (hplus : digit '+' = false) {s m : List Char} (hs : IsSign s) (hm : Significand digit m)
    (e : List Char) : (sign (s ++ (m ++ e))).2 = m ++ e := by
  have hlead : ∀ c ∈ (m ++ e).head?, digit c = true ∨ c = '.' := by
    rcases hm.head e with ⟨c, cs, hc, hlead⟩
    rw [hc]
    rintro d ⟨⟩
    exact hlead
  cases hs with
  | plus => rfl
  | minus => rfl
  | absent =>
    rw [List.nil_append]
    unfold sign
    split
    · next hcs =>
      rw [hcs] at hlead
      simp [hminus] at hlead
    · next hcs =>
      rw [hcs] at hlead
      simp [hplus] at hlead
    · rfl

/-! The digits in front of a text, and those behind a point if one follows, are the whole and the
fraction of what is read. -/

section

variable {cs whole fraction tail : List Char} (hwhole : ∀ c ∈ whole, isDigit c = true)
include hwhole

/-- How a numeral with a point is read: there must be digits on one side of the point at least, and
an exponent that can be read. -/
theorem read_of_point (hcs : (sign cs).2 = whole ++ '.' :: (fraction ++ tail))
    (hfraction : ∀ c ∈ fraction, isDigit c = true) (htail : ∀ c ∈ tail.head?, isDigit c = false) :
    read cs =
      if whole.isEmpty && fraction.isEmpty then none
      else (readExponent tail).map fun e => ⟨(sign cs).1, whole, some fraction, e⟩ := by
  have hpoint : ∀ c ∈ ('.' :: (fraction ++ tail)).head?, isDigit c = false := by
    rintro c ⟨⟩
    decide
  unfold read
  simp only [hcs, spanDigits_eq hwhole hpoint, spanDigits_eq hfraction htail]

theorem read_of_no_point (hcs : (sign cs).2 = whole ++ tail)
    (htail : ∀ c ∈ tail.head?, isDigit c = false) (hpoint : '.' ∉ tail.head?) :
    read cs =
      if whole.isEmpty then none
      else (readExponent tail).map fun e => ⟨(sign cs).1, whole, none, e⟩ := by
  unfold read
  simp only [hcs, spanDigits_eq hwhole htail]
  split
  · exact absurd rfl hpoint
  · rfl

end

/-- What stands behind the sign of a text: digits, and digits behind a point if one follows. -/
theorem body_cases (cs : List Char) :
    (∃ whole fraction tail, (∀ c ∈ whole, isDigit c = true) ∧ (∀ c ∈ fraction, isDigit c = true) ∧
      (∀ c ∈ tail.head?, isDigit c = false) ∧ cs = whole ++ '.' :: (fraction ++ tail)) ∨
    ∃ whole tail, (∀ c ∈ whole, isDigit c = true) ∧ (∀ c ∈ tail.head?, isDigit c = false) ∧
      '.' ∉ tail.head? ∧ cs = whole ++ tail := by
  rcases exists_span cs with ⟨whole, rest, hwhole, hrest, rfl⟩
  by_cases hpoint : '.' ∈ rest.head?
  · rcases List.head?_eq_some_iff.mp hpoint with ⟨behind, rfl⟩
    rcases exists_span behind with ⟨fraction, tail, hfraction, htail, rfl⟩
    exact .inl ⟨whole, fraction, tail, hwhole, hfraction, htail, rfl⟩
  · exact .inr ⟨whole, rest, hwhole, hrest, hpoint, rfl⟩

/-- The reader of numerals accepts exactly the grammar. -/
theorem isSome_read_iff {cs : List Char} : (read cs).isSome = true ↔ Written isDigit cs := by
  constructor
  · intro h
    rcases exists_sign cs with ⟨s, hs, hcs⟩
    -- the reader looks for a point behind the first digits, and so do the cases
    rcases body_cases (sign cs).2 with
      ⟨whole, fraction, tail, hwhole, hfraction, htail, hbody⟩ |
      ⟨whole, tail, hwhole, htail, hpoint, hbody⟩
    · rw [read_of_point hwhole hbody hfraction htail] at h
      split at h
      · cases h
      · next hsome =>
        rw [Option.isSome_map, isSome_readExponent_iff] at h
        refine ⟨s, whole ++ '.' :: fraction, tail, hs, ?_, h, ?_⟩
        · cases whole with
          | nil => exact .fraction ⟨by simpa using hsome, hfraction⟩
          | cons d ds => exact .point ⟨List.cons_ne_nil d ds, hwhole⟩ hfraction
        · rw [hcs, hbody, List.append_assoc, List.cons_append]
    · rw [read_of_no_point hwhole hbody htail hpoint] at h
      split at h
      · cases h
      · next hsome =>
        rw [Option.isSome_map, isSome_readExponent_iff] at h
        exact ⟨s, whole, tail, hs, .whole ⟨by simpa using hsome, hwhole⟩, h, by rw [hcs, hbody]⟩
  · rintro ⟨s, m, e, hs, hm, he, rfl⟩
    have hbody := sign_append_significand (by decide) (by decide) hs hm e
    have htail : ∀ c ∈ e.head?, isDigit c = false := by
      intro c hc
      rcases he.head c hc with rfl | rfl <;> decide
    have hexponent := isSome_readExponent_iff.mpr he
    -- the forms of a significand differ in what stands before and behind the point
    cases hm with
    | whole hds =>
      have hpoint : '.' ∉ e.head? := by
        intro hc
        rcases he.head _ hc with h | h <;> cases h
      rw [read_of_no_point hds.2 hbody htail hpoint, if_neg (by simpa using hds.1),
        Option.isSome_map]
      exact hexponent
    | @point ds fraction hds hfraction =>
      rw [List.append_assoc, List.cons_append] at hbody
      rw [List.append_assoc, List.cons_append, read_of_point hds.2 hbody hfraction htail,
        if_neg (by simp [hds.1]), Option.isSome_map]
      exact hexponent
    | @fraction ds hds =>
      have hnone : ∀ c ∈ ([] : List Char), isDigit c = true := nofun
      rw [List.cons_append] at hbody
      rw [List.cons_append, read_of_point hnone hbody hds.2 htail, if_neg (by simp [hds.1]),
        Option.isSome_map]
      exact hexponent

/-- A numeral is an integer exactly when the reader of integers accepts it. -/
theorem bind_toInt?_read (cs : List Char) : (read cs).bind toInt? = readInt cs := by
  rw [readInt_eq_sign]
  -- with anything behind the digits, neither side is an integer
  have hnone : ∀ ds c rest, isDigit c = false → readDecimal (ds ++ c :: rest) = none := by
    intro ds c rest hc
    simp [readDecimal, hc]
  rcases body_cases (sign cs).2 with
    ⟨whole, fraction, tail, hwhole, hfraction, htail, hbody⟩ |
    ⟨whole, tail, hwhole, htail, hpoint, hbody⟩
  · rw [read_of_point hwhole hbody hfraction htail, hbody, hnone _ _ _ (by decide)]
    split
    · rfl
    · cases readExponent tail <;> rfl
  · rw [read_of_no_point hwhole hbody htail hpoint, hbody]
    cases tail with
    | nil =>
      rw [List.append_nil]
      cases whole with
      | nil => rfl
      | cons d ds =>
        rw [readDecimal_eq_some.mpr ⟨⟨List.cons_ne_nil d ds, hwhole⟩, rfl⟩]
        rfl
    | cons c tail =>
      rw [hnone _ _ _ (htail c rfl), readExponent]
      split
      · rfl
      · split
        · cases readInt tail <;> rfl
        · rfl

/-- A wider class of digits makes more numerals. -/
theorem Written.mono {digit digit' : Char → Bool} (hdigit : ∀ c, digit c = true → digit' c = true)
    {cs : List Char} (h : Written digit cs) : Written digit' cs := by
  have hdigits : ∀ ds, Digits digit ds → Digits digit' ds :=
    fun ds hds => ⟨hds.1, fun c hc => hdigit c (hds.2 c hc)⟩
  rcases h with ⟨s, m, e, hs, hm, he, rfl⟩
  refine ⟨s, m, e, hs, ?_, ?_, rfl⟩
  · cases hm with
    | whole hds => exact .whole (hdigits _ hds)
    | point hds hfraction => exact .point (hdigits _ hds) fun c hc => hdigit c (hfraction c hc)
    | fraction hds => exact .fraction (hdigits _ hds)
  · cases he with
    | absent => exact .absent
    | present hc hs hds => exact .present hc hs (hdigits _ hds)

section

variable {digit : Char → Bool} (hascii : ∀ c : Char, c.toNat < 128 → digit c = isDigit c)
include hascii

/-- What a significand starts with is no letter. -/
theorem toLower_of_lead {c : Char} (hc : digit c = true ∨ c = '.') : c.toLower = c := by
  unfold Char.toLower
  split
  · next hupper =>
    -- a capital letter is an ASCII character, but no ASCII digit
    have hlow : 65 ≤ c.toNat := hupper.1
    have hhigh : c.toNat ≤ 90 := hupper.2
    rcases hc with hdigit | rfl
    · rw [hascii c (by omega)] at hdigit
      have hnine := toNat_le_of_isDigit hdigit
      omega
    · exact absurd hlow (by decide)
  · rfl

/-- The numbers with names are no numerals. -/
theorem ofText?_eq_none {cs : List Char} (h : Written digit cs) (hread : read cs = none) :
    Double.ofText? cs = none := by
  rcases h with ⟨s, m, e, hs, hm, -, rfl⟩
  have hminus : digit '-' = false := hascii '-' (by decide)
  have hplus : digit '+' = false := hascii '+' (by decide)
  rcases hm.head e with ⟨c, rest, hbody, hlead⟩
  -- a name starts with a letter, and a significand with a digit or a point
  have hname : ∀ d ds, d = 'i' ∨ d = 'n' →
      String.ofList ((m ++ e).map Char.toLower) ≠ String.ofList (d :: ds) := by
    intro d ds hd heq
    have hlist := String.ofList_injective heq
    rw [hbody, List.map_cons, toLower_of_lead hascii hlead] at hlist
    rcases List.cons.inj hlist with ⟨rfl, -⟩
    rcases hlead with hdigit | rfl
    · rcases hd with rfl | rfl <;> rw [hascii _ (by decide)] at hdigit <;> cases hdigit
    · rcases hd with h | h <;> cases h
  rw [Double.ofText?, hread]
  dsimp only
  rw [sign_append_significand hminus hplus hs hm e]
  split
  · next hinf => exact absurd hinf (hname 'i' ['n', 'f'] (.inl rfl))
  · next hinf => exact absurd hinf (hname 'i' ['n', 'f', 'i', 'n', 'i', 't', 'y'] (.inl rfl))
  · next hnan => exact absurd hnan (hname 'n' ['a', 'n'] (.inr rfl))
  · rfl

end

end Numeral

end DocLoad
