import ChatChannels.Proofs.Text.Token

/-! The words of a text, and what stands behind the first few of them. Neither depends on the white
space at the ends, and taking words off the front one by one, with a single white space behind each,
comes to the same text but for white space at its ends. -/
namespace ChatChannels.Text

/-- The parts between single white spaces, without the empty ones. -/
def words (cs : List Char) : List (List Char) := (cs.splitOnP isBlank).filter (· ≠ [])

/-- What is left of a text behind its first `n` words. -/
def behind : Nat → List Char → List Char
  | 0, cs => cs
  | n + 1, cs => behind n ((trimStart cs).dropWhile (!isBlank ·))

def trimEnd (cs : List Char) : List Char := (trimStart cs.reverse).reverse

variable {cs : List Char} {c : Char}

/-! ## Words -/

theorem words_cons_of_blank (h : isBlank c) (cs : List Char) : words (c :: cs) = words cs := by
  simp [words, List.splitOnP_cons_eq_if_modifyHead, h]

theorem splitOnP_cons_of_not_blank (h : isBlank c = false) (cs : List Char) :
    ∃ first others, cs.splitOnP isBlank = first :: others ∧
      (c :: cs).splitOnP isBlank = (c :: first) :: others ∧
      (first = [] ↔ cs.head?.all isBlank) := by
  cases cs with
  | nil => exact ⟨[], [], rfl, by simp [List.splitOnP_cons_eq_if_modifyHead, h], by simp⟩
  | cons d ds =>
    obtain ⟨first, others, hsplit⟩ := List.exists_cons_of_ne_nil (List.splitOnP_ne_nil isBlank ds)
    by_cases hd : isBlank d
    · refine ⟨[], ds.splitOnP isBlank, ?_, ?_, by simp [hd]⟩ <;>
        simp [List.splitOnP_cons_eq_if_modifyHead, h, hd]
    · refine ⟨d :: first, others, ?_, ?_, by simp [hd]⟩ <;>
        simp [List.splitOnP_cons_eq_if_modifyHead, h, hd, hsplit]

theorem tokens_eq_words (cs : List Char) : tokens cs = words cs := by
  induction cs with
  | nil => rfl
  | cons c cs ih =>
    rw [tokens]
    by_cases hc : isBlank c
    · rw [if_pos hc, ih, words_cons_of_blank hc]
    · obtain ⟨first, others, hsplit, hsplit', hfirst⟩ :=
        splitOnP_cons_of_not_blank (eq_false_of_ne_true hc) cs
      have hwords : words (c :: cs) = (c :: first) :: others.filter (· ≠ []) := by
        simp [words, hsplit']
      rw [if_neg hc, ih, hwords, words, hsplit]
      by_cases hempty : first = []
      · simp [hempty, hfirst.mp hempty]
      · rw [if_neg (mt hfirst.mpr hempty)]
        simp [hempty]

/-! ## White space at the ends -/

theorem trim_eq (cs : List Char) : trim cs = trimEnd (trimStart cs) := rfl

theorem trimStart_cons_of_blank (h : isBlank c) (cs : List Char) :
    trimStart (c :: cs) = trimStart cs :=
  List.dropWhile_cons_of_pos h

theorem trimStart_cons_of_not_blank (h : ¬isBlank c) (cs : List Char) :
    trimStart (c :: cs) = c :: cs :=
  List.dropWhile_cons_of_neg h

@[simp] theorem trimStart_trimStart (cs : List Char) : trimStart (trimStart cs) = trimStart cs :=
  trimStart_of_head? head?_trimStart

@[simp] theorem trimEnd_trimEnd (cs : List Char) : trimEnd (trimEnd cs) = trimEnd cs := by
  simp [trimEnd]

/-- White space is dropped at the end only. -/
theorem trimEnd_cons (c : Char) (cs : List Char) :
    trimEnd (c :: cs) = if trimEnd cs = [] ∧ isBlank c then [] else c :: trimEnd cs := by
  rw [trimEnd, trimEnd, trimStart, trimStart, List.reverse_cons, List.dropWhile_append]
  by_cases hrest : cs.reverse.dropWhile isBlank = []
  · by_cases hc : isBlank c <;> simp [hrest, hc]
  · simp [hrest]

theorem trimStart_trimEnd (cs : List Char) : trimStart (trimEnd cs) = trimEnd (trimStart cs) := by
  induction cs with
  | nil => rfl
  | cons c cs ih =>
    rw [trimEnd_cons]
    by_cases hc : isBlank c
    · rw [trimStart_cons_of_blank hc, ← ih]
      split
      next hnone => rw [hnone.1]
      next => exact trimStart_cons_of_blank hc _
    · rw [if_neg (by simp [hc]), trimStart_cons_of_not_blank hc, trimStart_cons_of_not_blank hc,
        trimEnd_cons, if_neg (by simp [hc])]

theorem dropWhile_trimEnd (cs : List Char) :
    (trimEnd cs).dropWhile (!isBlank ·) = trimEnd (cs.dropWhile (!isBlank ·)) := by
  induction cs with
  | nil => rfl
  | cons c cs ih =>
    by_cases hc : isBlank c
    · rw [List.dropWhile_cons_of_neg (by simp [hc]), trimEnd_cons]
      split
      next => rfl
      next => exact List.dropWhile_cons_of_neg (by simp [hc])
    · rw [List.dropWhile_cons_of_pos (by simp [hc]), trimEnd_cons, if_neg (by simp [hc]),
        List.dropWhile_cons_of_pos (by simp [hc]), ih]

@[simp] theorem trim_trimStart (cs : List Char) : trim (trimStart cs) = trim cs := by
  simp [trim_eq]

@[simp] theorem trim_trimEnd (cs : List Char) : trim (trimEnd cs) = trim cs := by
  simp [trim_eq, trimStart_trimEnd]

theorem behind_trimStart (n : Nat) (cs : List Char) :
    trim (behind n (trimStart cs)) = trim (behind n cs) := by
  cases n with
  | zero => simp [behind]
  | succ n => simp [behind]

theorem behind_trimEnd (n : Nat) (cs : List Char) : behind n (trimEnd cs) = trimEnd (behind n cs) := by
  induction n generalizing cs with
  | zero => rfl
  | succ n ih => rw [behind, behind, trimStart_trimEnd, dropWhile_trimEnd, ih]

/-- What is behind a word does not depend on the white space at the ends of the text. -/
theorem behind_trim (n : Nat) (cs : List Char) : trim (behind n (trim cs)) = trim (behind n cs) := by
  rw [trim_eq cs, behind_trimEnd, trim_trimEnd, behind_trimStart]

theorem tokens_trimStart (cs : List Char) : tokens (trimStart cs) = tokens cs := by
  induction cs with
  | nil => rfl
  | cons c cs ih =>
    by_cases hc : isBlank c
    · rw [trimStart_cons_of_blank hc, ih, tokens, if_pos hc]
    · rw [trimStart_cons_of_not_blank hc]

theorem head?_trimEnd (cs : List Char) : (trimEnd cs).head?.all isBlank = cs.head?.all isBlank := by
  cases cs with
  | nil => rfl
  | cons c cs =>
    rw [trimEnd_cons]
    split
    next hblank => simp [hblank.2]
    next => rfl

theorem tokens_trimEnd (cs : List Char) : tokens (trimEnd cs) = tokens cs := by
  induction cs with
  | nil => rfl
  | cons c cs ih =>
    rw [trimEnd_cons]
    split
    next hblank =>
      rw [hblank.1] at ih
      exact ih.trans (by rw [tokens, if_pos hblank.2])
    next => rw [tokens, tokens, ih, head?_trimEnd]

theorem tokens_trim (cs : List Char) : tokens (trim cs) = tokens cs := by
  rw [trim_eq, tokens_trimEnd, tokens_trimStart]

/-! ## Word by word -/

theorem cutAtBlank_eq (cs : List Char) :
    cutAtBlank cs = (cs.takeWhile (!isBlank ·), (cs.dropWhile (!isBlank ·)).tail) := by
  induction cs with
  | nil => rfl
  | cons c cs ih => by_cases hc : isBlank c <;> simp [cutAtBlank, hc, ih]

/-- A word ends at white space, or with the text. -/
theorem head?_dropWhile_word (cs : List Char) :
    (cs.dropWhile (!isBlank ·)).head?.all isBlank := by
  rw [Option.all_eq_true]
  intro c hc
  have hfirst := List.head?_dropWhile_not (!isBlank ·) cs
  rw [hc] at hfirst
  simpa using hfirst

theorem trimStart_tail (h : cs.head?.all isBlank) : trimStart cs.tail = trimStart cs := by
  cases cs with
  | nil => rfl
  | cons c cs =>
    have hc : isBlank c := by simpa using h
    exact (trimStart_cons_of_blank hc cs).symm

/-- The first word of a text is cut off, as long as there is one. -/
theorem tokens_eq_cut (cs : List Char) :
    tokens cs =
      if (cutAtBlank (trimStart cs)).1 = [] then []
      else (cutAtBlank (trimStart cs)).1 :: tokens (cutAtBlank (trimStart cs)).2 := by
  rw [← tokens_trimStart, cutAtBlank_eq]
  have hhead : ∀ c ∈ (trimStart cs).head?, isBlank c = false := head?_trimStart
  generalize trimStart cs = ds at hhead
  dsimp only
  have hends := head?_dropWhile_word ds
  split
  next hempty =>
    cases ds with
    | nil => rfl
    | cons d ds => simp [hhead d rfl] at hempty
  next hne =>
    have hword : IsWord (ds.takeWhile (!isBlank ·)) := by
      have hblank : ∀ c ∈ (cutAtBlank ds).1, isBlank c = false := not_blank_of_mem_cutAtBlank
      rw [cutAtBlank_eq] at hblank
      exact ⟨hne, hblank⟩
    conv => lhs; rw [← List.takeWhile_append_dropWhile (p := (!isBlank ·)) (l := ds)]
    rw [tokens_append hword _ hends, ← tokens_trimStart, ← trimStart_tail hends, tokens_trimStart]

/-- What is left by cutting the first word off has the same text behind its words. -/
theorem behind_cut (n : Nat) (cs : List Char) :
    trim (behind n (cutAtBlank (trimStart cs)).2) = trim (behind (n + 1) cs) := by
  rw [cutAtBlank_eq, behind, ← behind_trimStart, trimStart_tail (head?_dropWhile_word _),
    behind_trimStart]

end ChatChannels.Text
