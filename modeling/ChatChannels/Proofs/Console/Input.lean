import ChatChannels.Proofs.Console.Session
import Mathlib.Data.List.TakeWhile

/-! Input to a console is taken line by line. It may be cut behind any line break and the rest given
later, and lines that come to nothing may be left out. Only text that is not UTF-8 ends a session
early, and then all lines before it have been entered. -/
namespace ChatChannels

namespace Text

variable {line : List UInt8}

theorem linesFrom_line (h : lineFeed ∉ line) (pending rest : List UInt8) :
    linesFrom pending (line ++ lineFeed :: rest) =
      withoutReturn (pending.reverse ++ line) :: lines rest := by
  induction line generalizing pending with
  | nil =>
    rw [List.nil_append, linesFrom, if_pos rfl, List.append_nil]
    rfl
  | cons b line ih =>
    rw [List.mem_cons, not_or] at h
    rw [List.cons_append, linesFrom, if_neg (Ne.symm h.1), ih h.2, List.reverse_cons,
      List.append_assoc]
    rfl

/-- Up to a line break there is one line, without a carriage return at its end. -/
theorem lines_line (h : lineFeed ∉ line) (rest : List UInt8) :
    lines (line ++ lineFeed :: rest) = withoutReturn line :: lines rest :=
  linesFrom_line h [] rest

theorem linesFrom_rest (h : lineFeed ∉ line) (pending : List UInt8) :
    linesFrom pending line =
      if (pending.reverse ++ line).isEmpty then [] else [pending.reverse ++ line] := by
  induction line generalizing pending with
  | nil => simp [linesFrom]
  | cons b line ih =>
    rw [List.mem_cons, not_or] at h
    rw [linesFrom, if_neg (Ne.symm h.1), ih h.2, List.reverse_cons, List.append_assoc]
    rfl

/-- What follows the last line break is a line as it stands, if there is anything. -/
theorem lines_rest (h : lineFeed ∉ line) : lines line = if line.isEmpty then [] else [line] :=
  linesFrom_rest h []

def EndsLine (bytes : List UInt8) : Prop := bytes = [] ∨ bytes.getLast? = some lineFeed

theorem linesFrom_append (begun rest pending : List UInt8) :
    linesFrom pending (begun ++ [lineFeed] ++ rest) =
      linesFrom pending (begun ++ [lineFeed]) ++ lines rest := by
  induction begun generalizing pending with
  | nil => simp [linesFrom, lines]
  | cons b begun ih =>
    rw [List.cons_append, List.cons_append, linesFrom, linesFrom]
    split
    next => rw [ih, List.cons_append]
    next => exact ih _

/-- Behind a line break nothing of the lines before it is left. -/
theorem lines_append {a : List UInt8} (ha : EndsLine a) (b : List UInt8) :
    lines (a ++ b) = lines a ++ lines b := by
  rcases ha with rfl | ha
  · rfl
  · obtain ⟨begun, rfl⟩ := List.getLast?_eq_some_iff.mp ha
    exact linesFrom_append begun b []

end Text

/-- Goes on with a session where an input has ended, unless it has ended early. -/
def Reply.resume (reply : Reply Console InputEnd) (next : Console → Reply Console InputEnd) :
    Reply Console InputEnd :=
  match reply.answer with
  | .invalidText => reply
  | .finished =>
    let others := next reply.state
    ⟨others.state, others.answer, reply.events ++ others.events⟩

namespace Console

variable {c : Console}

theorem enterAll_append (c : Console) (first rest : List (List UInt8)) :
    c.enterAll (first ++ rest) = (c.enterAll first).resume (·.enterAll rest) := by
  induction first generalizing c with
  | nil => rfl
  | cons line first ih =>
    rw [List.cons_append, enterAll, enterAll]
    cases Text.decodeUtf8 line with
    | none => rfl
    | some text =>
      dsimp only
      rw [ih]
      unfold Reply.resume
      dsimp only
      -- If the first part has ended early, the rest is not looked at on either side.
      cases hend : ((c.enter text).state.enterAll first).answer with
      | finished => simp
      | invalidText => simp [hend]

/-- All that happens as lines are entered one after the other. -/
def eventsOf (c : Console) : List String → List Event
  | [] => []
  | line :: rest => (c.enter line).events ++ (c.enter line).state.eventsOf rest

theorem enterAll_decoded (c : Console) {lines : List (List UInt8)} {texts : List String}
    (h : lines.map Text.decodeUtf8 = texts.map some) :
    c.enterAll lines = ⟨c.enterLines texts, .finished, c.eventsOf texts⟩ := by
  induction lines generalizing c texts with
  | nil =>
    obtain rfl := List.map_eq_nil_iff.mp h.symm
    rfl
  | cons line rest ih =>
    cases texts with
    | nil => cases h
    | cons text texts =>
      obtain ⟨hline, hrest⟩ := List.cons.inj h
      rw [enterAll, hline]
      dsimp only
      rw [ih _ hrest]
      rfl

theorem enterAll_invalid_iff (c : Console) (lines : List (List UInt8)) :
    (c.enterAll lines).answer = .invalidText ↔ ∃ line ∈ lines, Text.decodeUtf8 line = none := by
  induction lines generalizing c with
  | nil => simp [enterAll]
  | cons line rest ih =>
    rw [enterAll]
    cases hline : Text.decodeUtf8 line with
    | none => simp [hline]
    | some text => simp [hline, ih]

/-! ## Lines that come to nothing -/

/-- A line that cannot be read, or that is for a player who is not logged in. -/
def Inert (c : Console) (line : String) : Prop :=
  match ConsoleLine.parse line with
  | .error _ => True
  | .ok (.logout id) | .ok (.player id _ _) => c.world.isOnline id = false
  | .ok _ => False

theorem Inert.enter {line : String} (h : c.Inert line) :
    (c.enter line).state = c ∧ (c.enter line).events = [] := by
  have hnobody : ∀ id run, c.world.isOnline id = false →
      (c.withPlayer id run).state = c ∧ (c.withPlayer id run).events = [] := by
    intro id run hid
    rw [withPlayer_none (Option.isNone_iff_eq_none.mp (Option.isSome_eq_false_iff.mp hid))]
    exact ⟨rfl, rfl⟩
  unfold Inert at h
  unfold Console.enter
  split at h
  next e he =>
    rw [he]
    exact ⟨rfl, rfl⟩
  next id hparse =>
    rw [hparse]
    exact hnobody id _ h
  next id channel command hparse =>
    rw [hparse]
    exact hnobody id _ h
  next => exact h.elim

theorem inert_of_blank {line : String} (h : ∀ x ∈ line.toList, Text.isBlank x) : c.Inert line := by
  have htrim : Text.trim line.toList = [] := by
    rw [Text.trim, Text.trimStart, Text.trimStart, List.dropWhile_eq_nil_iff.mpr h]
    rfl
  have hparse : ConsoleLine.parse line = .error .empty := by
    rw [ConsoleLine.parse, htrim]
    rfl
  rw [Inert, hparse]
  trivial

/-! ## Whole inputs -/

/-- What an input comes to, by its lines. -/
structure TakesLines (c : Console) : Prop where
  /-- A line goes up to a line break, and a carriage return right before that is not part of it. -/
  line : ∀ raw rest, Text.lineFeed ∉ raw →
    Text.lines (raw ++ Text.lineFeed :: rest) = Text.withoutReturn raw :: Text.lines rest
  last_line : ∀ raw, Text.lineFeed ∉ raw → Text.lines raw = if raw.isEmpty then [] else [raw]
  /-- Behind a line break the input may be cut, and the rest given where the first part has led. -/
  resumes : ∀ a b, Text.EndsLine a → c.run (a ++ b) = (c.run a).resume (·.run b)
  ends_early_iff : ∀ input, (c.run input).answer = .invalidText ↔
    ∃ line ∈ Text.lines input, Text.decodeUtf8 line = none
  finishes : ∀ input texts, (Text.lines input).map Text.decodeUtf8 = texts.map some →
    c.run input = ⟨c.enterLines texts, .finished, c.eventsOf texts⟩
  /-- All lines before one that is not text are entered, and none behind it. -/
  breaks_off : ∀ input before bad after texts, Text.lines input = before ++ bad :: after →
    before.map Text.decodeUtf8 = texts.map some → Text.decodeUtf8 bad = none →
    c.run input = ⟨c.enterLines texts, .invalidText, c.eventsOf texts⟩
  blank : ∀ line : String, (∀ x ∈ line.toList, Text.isBlank x) → c.Inert line
  /-- A line that comes to nothing changes nothing and delivers nothing. -/
  inert : ∀ line, c.Inert line → (c.enter line).state = c ∧ (c.enter line).events = []
  /-- Such a line may be left out. -/
  skips : ∀ line raw rest, c.Inert line → Text.lineFeed ∉ raw →
    Text.decodeUtf8 (Text.withoutReturn raw) = some line →
    c.run (raw ++ Text.lineFeed :: rest) = c.run rest
  skips_last : ∀ line raw, c.Inert line → Text.lineFeed ∉ raw → Text.decodeUtf8 raw = some line →
    c.run raw = ⟨c, .finished, []⟩

/-- At any point of any session, input is taken line by line. -/
theorem run_takesLines (c : Console) : c.TakesLines where
  line raw rest h := Text.lines_line h rest
  last_line raw h := Text.lines_rest h
  resumes a b ha := by
    rw [run, Text.lines_append ha, enterAll_append]
    rfl
  ends_early_iff input := c.enterAll_invalid_iff (Text.lines input)
  finishes input texts h := c.enterAll_decoded h
  breaks_off input before bad after texts hinput hbefore hbad := by
    rw [run, hinput, enterAll_append, c.enterAll_decoded hbefore, Reply.resume]
    dsimp only
    rw [enterAll, hbad]
    dsimp only
    rw [List.append_nil]
  blank line h := inert_of_blank h
  inert line h := h.enter
  skips line raw rest h hraw hline := by
    obtain ⟨hstate, hevents⟩ := h.enter
    rw [run, Text.lines_line hraw, enterAll, hline]
    dsimp only
    rw [hstate, hevents]
    rfl
  skips_last line raw h hraw hline := by
    obtain ⟨hstate, hevents⟩ := h.enter
    rw [run, Text.lines_rest hraw]
    split
    next => rfl
    next =>
      rw [enterAll, hline]
      dsimp only
      rw [hstate, hevents]
      rfl

/-- Two lines come to nothing, Ann logs in and joins, a line that is not text follows, and Ann does
not log out. -/
theorem run_takesLines_broken :
    let c : Console := { registry := .ofConfig {} }
    let blank := " \t\r".toUTF8.toList
    let entered := "9 leave Raiders\nlogin 1 Ann\r\n1 join Raiders\n".toUTF8.toList
    let a := blank ++ Text.lineFeed :: entered
    let bad : List UInt8 := [0x78, 0xff]
    let b := bad ++ Text.lineFeed :: "logout 1\n".toUTF8.toList
    let texts := [" \t", "9 leave Raiders", "login 1 Ann", "1 join Raiders"]
    Text.EndsLine a ∧ (Text.lines a).map Text.decodeUtf8 = texts.map some ∧
      Text.lines (a ++ b) = Text.lines a ++ bad :: ["logout 1".toUTF8.toList] ∧
      (c.Inert " \t" ∧ c.Inert "9 leave Raiders") ∧
      c.run (a ++ b) = (c.run a).resume (·.run b) ∧
      c.run a = ⟨c.enterLines texts, .finished, c.eventsOf texts⟩ ∧
      c.run (a ++ b) = ⟨c.enterLines texts, .invalidText, c.eventsOf texts⟩ ∧
      c.run a = c.run entered ∧ (c.run (a ++ b)).state.world.isOnline ⟨1⟩ := by
  intro c blank entered a bad b texts
  have ha : Text.EndsLine a := .inr (by decide +kernel)
  have htexts : (Text.lines a).map Text.decodeUtf8 = texts.map some := by decide +kernel
  have hlines : Text.lines (a ++ b) = Text.lines a ++ bad :: ["logout 1".toUTF8.toList] := by
    decide +kernel
  have hbad : Text.decodeUtf8 bad = none := by decide +kernel
  have hleave : ConsoleLine.parse "9 leave Raiders" =
      .ok (.player ⟨9⟩ "Raiders" (.leave true)) := by decide +kernel
  have hc := run_takesLines c
  have hblank : c.Inert " \t" := hc.blank " \t" (List.all_eq_true.mp (by decide +kernel))
  have habsent : c.Inert "9 leave Raiders" := by
    rw [Inert, hleave]
    rfl
  have hskipped := hc.skips " \t" blank entered hblank (by decide +kernel) (by decide +kernel)
  exact ⟨ha, htexts, hlines, ⟨hblank, habsent⟩, hc.resumes a b ha, hc.finishes a texts htexts,
    hc.breaks_off _ _ bad _ texts hlines htexts hbad, hskipped, by decide +kernel⟩

end Console
end ChatChannels
