import ChatChannels.Text.Numeral
import ChatChannels.Text.Token

/-! Words with single spaces between them. Cut at the first white space, or taken token by token, such
a text gives its words back. A number is such a word, and is read as itself. -/
namespace ChatChannels.Text

/-- A word is not empty and has no white space in it. -/
def IsWord (cs : List Char) : Prop := cs ≠ [] ∧ ∀ c ∈ cs, isBlank c = false

/-- Text without white space at either end. -/
def IsTrimmed (cs : List Char) : Prop :=
  (∀ c ∈ cs.head?, isBlank c = false) ∧ ∀ c ∈ cs.getLast?, isBlank c = false

/-- A part of a line that can be told from the white space around it, though it may have some
inside. -/
def IsField (cs : List Char) : Prop := cs ≠ [] ∧ IsTrimmed cs

instance : DecidablePred IsWord := fun cs =>
  decidable_of_iff (cs ≠ [] ∧ cs.all (!isBlank ·)) (by simp [IsWord])

instance : DecidablePred IsTrimmed := fun cs =>
  decidable_of_iff (cs.head?.all (!isBlank ·) ∧ cs.getLast?.all (!isBlank ·)) (by
    simp [IsTrimmed, Option.all_eq_true])

/-- Fields with a single space between them. -/
def spaced (fields : List (List Char)) : List Char := [' '].intercalate fields

variable {cs token word field : List Char} {words fields : List (List Char)} {n bound : Nat}

@[simp] theorem spaced_singleton (field : List Char) : spaced [field] = field :=
  List.intercalate_singleton

@[simp] theorem spaced_cons_cons (field next : List Char) (others : List (List Char)) :
    spaced (field :: next :: others) = field ++ ' ' :: spaced (next :: others) := by
  rw [spaced, List.intercalate_cons_cons, List.append_assoc]
  rfl

/-! ## White space at the ends -/

theorem IsWord.isField (h : IsWord word) : IsField word :=
  ⟨h.1, fun c hc => h.2 c (List.mem_of_mem_head? hc),
    fun c hc => h.2 c (List.mem_of_mem_getLast? hc)⟩

theorem trimStart_of_head? (h : ∀ c ∈ cs.head?, isBlank c = false) : trimStart cs = cs := by
  cases cs with
  | nil => rfl
  | cons c rest => exact List.dropWhile_cons_of_neg (by simp [h c rfl])

theorem head?_trimStart : ∀ c ∈ (trimStart cs).head?, isBlank c = false := by
  intro c hc
  have hfirst := List.head?_dropWhile_not isBlank cs
  rw [← trimStart, Option.mem_def.mp hc] at hfirst
  exact hfirst

theorem IsTrimmed.trim (h : IsTrimmed cs) : trim cs = cs := by
  rw [Text.trim, trimStart_of_head? h.1, trimStart_of_head?, List.reverse_reverse]
  rw [List.head?_reverse]
  exact h.2

theorem isTrimmed_trim (cs : List Char) : IsTrimmed (trim cs) := by
  constructor
  · rw [trim, List.head?_reverse]
    intro c hc
    -- what is left of a text goes up to the end of it
    obtain ⟨blanks, hblanks⟩ := List.dropWhile_suffix isBlank (l := (trimStart cs).reverse)
    have hlast := congrArg List.getLast? hblanks
    rw [List.getLast?_append, ← trimStart, Option.mem_def.mp hc, List.getLast?_reverse] at hlast
    exact head?_trimStart c hlast.symm
  · rw [trim, List.getLast?_reverse]
    exact head?_trimStart

theorem spaced_ne_nil (h : field ≠ []) (fields : List (List Char)) :
    spaced (field :: fields) ≠ [] := by
  cases fields <;> simp [h]

theorem isTrimmed_spaced (h : ∀ field ∈ fields, IsField field) :
    IsTrimmed (spaced fields) := by
  induction fields with
  | nil => constructor <;> exact fun c hc => by cases hc
  | cons field fields ih =>
    obtain ⟨⟨hfield, htrimmed⟩, hrest⟩ := List.forall_mem_cons.mp h
    cases fields with
    | nil => rwa [spaced_singleton]
    | cons next others =>
      have hnext := spaced_ne_nil (hrest next List.mem_cons_self).1 others
      rw [spaced_cons_cons]
      constructor
      · rw [List.head?_append, List.head?_eq_some_head hfield, Option.some_or,
          ← List.head?_eq_some_head]
        exact htrimmed.1
      · rw [List.append_cons, List.getLast?_append, List.getLast?_eq_some_getLast hnext,
          Option.some_or, ← List.getLast?_eq_some_getLast]
        exact (ih hrest).2

/-! ## The first word -/

theorem cutAtBlank_space (cs : List Char) : cutAtBlank (' ' :: cs) = ([], cs) := rfl

theorem cutAtBlank_append (h : ∀ c ∈ word, isBlank c = false) (cs : List Char) :
    cutAtBlank (word ++ cs) = (word ++ (cutAtBlank cs).1, (cutAtBlank cs).2) := by
  induction word with
  | nil => rfl
  | cons c word ih =>
    obtain ⟨hc, hword⟩ := List.forall_mem_cons.mp h
    rw [List.cons_append, cutAtBlank, if_neg (by simp [hc]), ih hword]
    rfl

theorem cutAtBlank_spaced (h : IsWord word) (fields : List (List Char)) :
    cutAtBlank (spaced (word :: fields)) = (word, spaced fields) := by
  cases fields with
  | nil =>
    have hcut := cutAtBlank_append h.2 []
    rw [cutAtBlank, List.append_nil] at hcut
    rwa [spaced_singleton]
  | cons next others =>
    rw [spaced_cons_cons, cutAtBlank_append h.2, cutAtBlank_space, List.append_nil]

theorem not_blank_of_mem_cutAtBlank : ∀ c ∈ (cutAtBlank cs).1, isBlank c = false := by
  induction cs with
  | nil => exact fun c hc => by cases hc
  | cons c rest ih =>
    rw [cutAtBlank]
    split
    next => exact fun c hc => by cases hc
    next hc => exact List.forall_mem_cons.mpr ⟨by simpa using hc, ih⟩

/-! ## Tokens -/

theorem tokens_space (cs : List Char) : tokens (' ' :: cs) = tokens cs := rfl

theorem isWord_of_mem_tokens (h : token ∈ tokens cs) : IsWord token := by
  induction cs generalizing token with
  | nil => cases h
  | cons c rest ih =>
    have hjoin : isBlank c = false → ∀ {first}, (∀ x ∈ first, isBlank x = false) →
        IsWord (c :: first) := fun hc _ hfirst =>
      ⟨List.cons_ne_nil _ _, List.forall_mem_cons.mpr ⟨hc, hfirst⟩⟩
    rw [tokens] at h
    split at h
    next => exact ih h
    next hc =>
      have hc := eq_false_of_ne_true hc
      have hsingle : IsWord [c] := hjoin hc (fun x hx => by cases hx)
      split at h
      next =>
        rcases List.mem_cons.mp h with rfl | h
        · exact hsingle
        · exact ih h
      next =>
        split at h
        next =>
          rw [List.mem_singleton.mp h]
          exact hsingle
        next first others htokens =>
          rw [htokens] at ih
          rcases List.mem_cons.mp h with rfl | h
          · exact hjoin hc (ih List.mem_cons_self).2
          · exact ih (List.mem_cons_of_mem first h)

theorem tokens_append (h : IsWord word) (cs : List Char) (hcs : cs.head?.all isBlank) :
    tokens (word ++ cs) = word :: tokens cs := by
  induction word with
  | nil => exact absurd rfl h.1
  | cons c word ih =>
    obtain ⟨hc, hword⟩ := List.forall_mem_cons.mp h.2
    rw [List.cons_append, tokens, if_neg (by simp [hc])]
    cases word with
    | nil => rw [List.nil_append, if_pos hcs]
    | cons next word =>
      obtain ⟨hnext, -⟩ := List.forall_mem_cons.mp hword
      rw [List.cons_append, if_neg (by simp [hnext]), ← List.cons_append,
        ih ⟨List.cons_ne_nil _ _, hword⟩]

theorem tokens_spaced_cons (h : IsWord word) (fields : List (List Char)) :
    tokens (spaced (word :: fields)) = word :: tokens (spaced fields) := by
  cases fields with
  | nil =>
    have htokens := tokens_append h [] rfl
    rw [List.append_nil] at htokens
    rwa [spaced_singleton]
  | cons next others => rw [spaced_cons_cons, tokens_append h _ rfl, tokens_space]

theorem tokens_spaced (h : ∀ word ∈ words, IsWord word) : tokens (spaced words) = words := by
  induction words with
  | nil => rfl
  | cons word words ih =>
    obtain ⟨hword, hrest⟩ := List.forall_mem_cons.mp h
    rw [tokens_spaced_cons hword, ih hrest]

/-! ## Numbers -/

theorem isBlank_eq_false_of_isDigit {c : Char} (h : c.isDigit = true) : isBlank c = false := by
  obtain ⟨hlow, hhigh⟩ := Char.isDigit_iff_toNat.mp h
  simp only [Char.reduceToNat] at hlow hhigh
  simp only [isBlank, Bool.or_eq_false_iff, Bool.and_eq_false_iff, decide_eq_false_iff_not,
    beq_eq_false_iff_ne]
  omega

theorem all_isDigit_toDigits (n : Nat) : (Nat.toDigits 10 n).all Char.isDigit = true :=
  List.all_eq_true.mpr fun _ hc => Nat.isDigit_of_mem_toDigits (by decide) (by decide) hc

theorem isWord_toDigits (n : Nat) : IsWord (Nat.toDigits 10 n) :=
  ⟨Nat.toDigits_ne_nil, fun c hc =>
    isBlank_eq_false_of_isDigit (List.all_eq_true.mp (all_isDigit_toDigits n) c hc)⟩

theorem readNumeral_toDigits (h : n < bound) :
    readNumeral bound (Nat.toDigits 10 n) = some n := by
  have hvalue : ofDigits (Nat.toDigits 10 n) = n := by
    have hread := Nat.ofDigitChars_ten_toDigits (n := n)
    rwa [Nat.ofDigitChars_eq_foldl] at hread
  have hdigits := all_isDigit_toDigits n
  unfold readNumeral
  split
  next rest hsign =>
    rw [hsign] at hdigits
    cases hdigits
  next =>
    dsimp only
    rw [if_neg (by simp [Nat.toDigits_ne_nil, hdigits]), hvalue, if_pos h]

/-- A numeral is a plus sign, if any, and digits, and stands for a number below the bound. -/
theorem readNumeral_eq_some_iff :
    readNumeral bound cs = some n ↔
      ∃ digits, (cs = digits ∨ cs = '+' :: digits) ∧ digits ≠ [] ∧ (∀ d ∈ digits, d.isDigit) ∧
        Nat.ofDigitChars 10 digits 0 = n ∧ n < bound := by
  have hread : ∀ digits : List Char,
      (if digits.isEmpty || !digits.all Char.isDigit then none
        else if ofDigits digits < bound then some (ofDigits digits) else none) = some n ↔
      digits ≠ [] ∧ (∀ d ∈ digits, d.isDigit) ∧ Nat.ofDigitChars 10 digits 0 = n ∧ n < bound := by
    intro digits
    have hvalue : Nat.ofDigitChars 10 digits 0 = ofDigits digits := Nat.ofDigitChars_eq_foldl
    rw [hvalue]
    simp only [Option.ite_none_left_eq_some, Option.ite_none_right_eq_some, Option.some.injEq,
      Bool.or_eq_true, Bool.not_eq_true', not_or, List.isEmpty_iff, Bool.not_eq_false,
      List.all_eq_true, and_assoc]
    constructor
    · rintro ⟨hne, hdigits, hlt, rfl⟩
      exact ⟨hne, hdigits, rfl, hlt⟩
    · rintro ⟨hne, hdigits, rfl, hlt⟩
      exact ⟨hne, hdigits, hlt, rfl⟩
  unfold readNumeral
  dsimp only
  split
  next rest =>
    rw [hread]
    constructor
    · exact fun h => ⟨rest, .inr rfl, h⟩
    · rintro ⟨digits, rfl | hcs, h⟩
      · -- a plus sign is no digit
        exact absurd (h.2.1 '+' List.mem_cons_self) (by decide)
      · rw [(List.cons.inj hcs).2]
        exact h
  next hsign =>
    rw [hread]
    constructor
    · exact fun h => ⟨cs, .inl rfl, h⟩
    · rintro ⟨digits, rfl | rfl, h⟩
      · exact h
      · exact absurd rfl (hsign digits)

theorem lt_of_readNumeral (h : readNumeral bound cs = some n) : n < bound := by
  simp only [readNumeral, Option.ite_none_left_eq_some, Option.ite_none_right_eq_some,
    Option.some.injEq] at h
  obtain ⟨-, hlt, rfl⟩ := h
  exact hlt

end ChatChannels.Text
