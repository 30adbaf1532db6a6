import DocLoad.Render.Shell

/-!
# DocLoad.Proofs.Render.Quoting — which characters of a text stand in quotes

A text in shell notation is read from the left with a `Quoting` in hand: single quotes open and
close quoted text, and inside it a backslash takes the character after it along.  A text is
*sealed* when it ends outside quotes and has its delimiters (commas, colons, blanks, line breaks
and brackets) only inside them.

* `Sealed.append_inj`: where a sealed text ends can be seen, whatever follows it, as long as that
  starts with a delimiter.
* `sealed_plain`, `sealed_quoted_append`: plain characters and quoted texts are sealed.
* `key_injective`: a key can be recovered from its text, whether it stands in quotes or not.
-/

namespace DocLoad

/-- Where a reader of shell notation is. -/
inductive Quoting where
  | outside
  | inside
  /-- Inside quotes and behind a backslash. -/
  | escaped
deriving DecidableEq, Repr

/-- Where the reader is after one more character. -/
def Quoting.next : Quoting → Char → Quoting
  | outside, c => if c = '\'' then inside else outside
  | inside, c => if c = '\'' then outside else if c = '\\' then escaped else inside
  | escaped, _ => inside

namespace Shell

/-- The characters that stand between the texts of keys and values. -/
def delimiters : List Char :=
  [',', ':', ' ', '\n', '[', ']', '\x7b', '\x7d']

/-- A text that ends outside quotes and has no delimiter outside quotes. -/
inductive Sealed : Quoting → List Char → Prop where
  | nil : Sealed .outside []
  | cons {q : Quoting} {c : Char} {cs : List Char} (hc : q = .outside → c ∉ delimiters)
      (hcs : Sealed (q.next c) cs) : Sealed q (c :: cs)

theorem Sealed.step {q q' : Quoting} {c : Char} {cs : List Char}
    (hc : q = .outside → c ∉ delimiters) (hnext : q.next c = q') (hcs : Sealed q' cs) :
    Sealed q (c :: cs) := by
  subst hnext
  exact .cons hc hcs

/-- What may follow a sealed text: nothing, or something that starts with a delimiter. -/
def Follows (cs : List Char) : Prop :=
  ∀ c ∈ cs.head?, c ∈ delimiters

/-! ## Where a sealed text ends -/

/-- A sealed text does not start with a delimiter. -/
theorem Sealed.head {c : Char} {cs : List Char} (h : Sealed .outside (c :: cs)) :
    c ∉ delimiters := by
  cases h with
  | cons hc _ => exact hc rfl

/-- Where a sealed text ends can be seen, if what follows starts with a delimiter. -/
theorem Sealed.append_inj {q : Quoting} {a b r s : List Char} (ha : Sealed q a) (hb : Sealed q b)
    (hr : Follows r) (hs : Follows s) (h : a ++ r = b ++ s) : a = b ∧ r = s := by
  induction ha generalizing b with
  | nil =>
    cases hb with
    | nil => exact ⟨rfl, h⟩
    | cons hc hcs =>
      -- `a` has ended, so `b` would go on with the delimiter behind it
      rw [List.nil_append] at h
      subst h
      exact absurd (hr _ rfl) (Sealed.cons hc hcs).head
  | @cons q c cs hc hcs ih =>
    cases hb with
    | nil =>
      rw [List.nil_append] at h
      subst h
      exact absurd (hs _ rfl) (Sealed.cons hc hcs).head
    | cons hc' hcs' =>
      obtain ⟨rfl, htail⟩ := List.cons.inj h
      obtain ⟨rfl, hrest⟩ := ih hcs' htail
      exact ⟨rfl, hrest⟩

/-! ## Texts that are sealed -/

/-- A character that is neither a delimiter nor a quote. -/
def isPlain (c : Char) : Bool :=
  c ∉ '\'' :: delimiters

/-- Plain characters may stand in front of a sealed text. -/
theorem sealed_plain_append {a b : List Char} (ha : ∀ c ∈ a, isPlain c = true)
    (hb : Sealed .outside b) : Sealed .outside (a ++ b) := by
  induction a with
  | nil => exact hb
  | cons c cs ih =>
    obtain ⟨hc, hcs⟩ := List.forall_mem_cons.mp ha
    have hc' : c ∉ '\'' :: delimiters := of_decide_eq_true hc
    have hquote : c ≠ '\'' := by
      rintro rfl
      exact hc' List.mem_cons_self
    have hnext : Quoting.outside.next c = .outside := if_neg hquote
    exact .step (fun _ hdelimiter => hc' (.tail _ hdelimiter)) hnext (ih hcs)

theorem sealed_plain {cs : List Char} (h : ∀ c ∈ cs, isPlain c = true) : Sealed .outside cs := by
  simpa using sealed_plain_append h .nil

/-- Escaped text stays inside the quotes. -/
theorem sealed_escape_append (c : Char) {b : List Char} (hb : Sealed .inside b) :
    Sealed .inside (escape c ++ b) := by
  have hbackslash (c : Char) : Sealed .inside ('\\' :: c :: b) :=
    Sealed.cons nofun (.cons nofun hb)
  unfold escape
  split
  · exact hbackslash c
  · next hc =>
    split
    · exact hbackslash 'n'
    split
    · exact hbackslash 't'
    · have hnext : Quoting.inside.next c = .inside := by
        simp only [not_or] at hc
        simp only [Quoting.next, if_neg hc.1, if_neg hc.2]
      exact .step nofun hnext hb

/-- Escaped characters leave the reader inside the quotes. -/
theorem sealed_escaped_append (cs : List Char) {b : List Char} (hb : Sealed .inside b) :
    Sealed .inside (cs.flatMap escape ++ b) := by
  induction cs with
  | nil => exact hb
  | cons c cs ih =>
    rw [List.flatMap_cons, List.append_assoc]
    exact sealed_escape_append c ih

/-- A quoted text may stand in front of a sealed text, whatever is in it. -/
theorem sealed_quoted_append (cs : List Char) {b : List Char} (hb : Sealed .outside b) :
    Sealed .outside (quoted cs ++ b) := by
  have hquoted : quoted cs ++ b = '\'' :: (cs.flatMap escape ++ '\'' :: b) := by
    simp [quoted]
  rw [hquoted]
  exact .cons (fun _ => by decide) (sealed_escaped_append cs (.cons nofun hb))

/-- Identifiers contain neither delimiters nor quotes. -/
theorem isPlain_of_isIdentRest {c : Char} (h : isIdentRest c = true) : isPlain c = true := by
  have hspecial : ('\'' :: delimiters).all (fun d => !isIdentRest d) = true := by decide
  apply decide_eq_true
  intro hmem
  have hc := List.all_eq_true.mp hspecial c hmem
  rw [h] at hc
  cases hc

theorem isIdentRest_of_isIdent {cs : List Char} (h : isIdent cs = true) :
    ∀ c ∈ cs, isIdentRest c = true := by
  cases cs with
  | nil => nofun
  | cons c cs =>
    simp only [isIdent, Bool.and_eq_true, List.all_eq_true] at h
    rintro d (_ | ⟨_, hd⟩)
    · simp only [isIdentRest, h.1, Bool.true_or]
    · exact h.2 d hd

/-! ## Reading quoted texts back -/

/-- The text that stands in front of the closing quote. -/
def unquote : List Char → List Char
  | [] => []
  | '\'' :: _ => []
  | ['\\'] => []
  | '\\' :: c :: cs =>
    (if c = 'n' then '\n' else if c = 't' then '\t' else c) :: unquote cs
  | c :: cs => c :: unquote cs

/-- Undoing the escapes gives back what was quoted, whatever follows the closing quote. -/
theorem unquote_escaped (cs rest : List Char) :
    unquote (cs.flatMap escape ++ '\'' :: rest) = cs := by
  induction cs with
  | nil => rfl
  | cons c cs ih =>
    rw [List.flatMap_cons, List.append_assoc]
    -- one case for each kind of escape, and the plain character last
    unfold escape
    split
    · next hc =>
      rcases hc with rfl | rfl
      · exact congrArg _ ih
      · exact congrArg _ ih
    · next hc =>
      split
      · next hn =>
        subst hn
        exact congrArg _ ih
      split
      · next ht =>
        subst ht
        exact congrArg _ ih
      · simp only [not_or] at hc
        rw [List.singleton_append, unquote]
        · exact congrArg _ ih
        · exact hc.1
        · exact fun h => absurd h hc.2
        · exact fun _ _ h => absurd h hc.2

/-- The key that a text stands for. -/
def unkey : List Char → List Char
  | '\'' :: cs => unquote cs
  | cs => cs

/-- A key is read back from its text. -/
theorem unkey_key (cs : List Char) : unkey (key cs) = cs := by
  unfold key
  split
  · next hident =>
    -- an identifier does not start with a quote
    cases cs with
    | nil => rfl
    | cons c cs =>
      rw [unkey]
      rintro _ h
      cases h
      cases isIdentRest_of_isIdent hident '\'' List.mem_cons_self
  · exact unquote_escaped cs []

/-- A key can be recovered from its text, whether it stands in quotes or not. -/
theorem key_injective {cs ds : List Char} (h : key cs = key ds) : cs = ds := by
  rw [← unkey_key cs, h, unkey_key]

end Shell
end DocLoad
