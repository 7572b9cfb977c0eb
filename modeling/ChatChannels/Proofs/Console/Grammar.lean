import ChatChannels.Console.Line
import ChatChannels.Proofs.Text.Words

/-! The grammar of lines over their words. Every line is read as its words are, errors included, and
the white space between them only matters to the text of `say`. -/
namespace ChatChannels

namespace LineGrammar

def number (what : String) (bound : Nat) (word : String) : Except LineError Nat :=
  match Text.readNumeral bound word.toList with
  | some n => .ok n
  | none => .error (.invalid what word)

def playerId (word : String) : Except LineError PlayerId := do
  return ⟨.ofNat (← number "player id" UInt64.size word)⟩

/-- A byte that is the code of something. -/
def code {α : Type} (what : String) (ofCode? : UInt8 → Option α) (word : String) :
    Except LineError α := do
  match ofCode? (.ofNat (← number what UInt8.size word)) with
  | some a => return a
  | none => throw (.invalid what word)

/-- Guild 0 is no guild. -/
def guild (word : String) : Except LineError (Option UInt32) := do
  let n ← number "guild" UInt32.size word
  return if n = 0 then none else some (.ofNat n)

def required (missing : String) : List String → Except LineError String
  | [] => .error (.missing missing)
  | word :: _ => .ok word

def switch : List String → Except LineError Bool
  | [] => .error (.missing "on|off")
  | word :: _ =>
    if word = "on" then .ok true
    else if word = "off" then .ok false
    else .error (.invalid "switch" word)

/-- What may follow the name in a login, in this order. -/
def loginFields : List (String → Player → Except LineError Player) := [
  fun word p => do return { p with security := ← code "security level" SecurityLevel.ofCode? word },
  fun word p => do return { p with team := ← code "team" Team.ofCode? word },
  fun word p => do return { p with rank := .ofNat (← number "rank" UInt8.size word) },
  fun word p => do return { p with guild := ← guild word }]

def login (args : List String) : Except LineError Player := do
  let id ← playerId (← required "id" args)
  let name ← required "name" args.tail
  (loginFields.zip args.tail.tail).foldlM (fun p field => field.1 field.2 p) { id, name }

/-- What a verb takes from the words behind the channel, and the command it makes of that. -/
inductive Form where
  | alone (command : Command)
  | word (command : Option String → Command)
  | name (command : String → Command)
  | nameAndSwitch (command : String → Bool → Command)
  | text (command : String → Command)

def Form.read (text : String) : Form → List String → Except LineError Command
  | .alone command, _ => .ok command
  | .word command, args => .ok (command args.head?)
  | .name command, args => do return command (← required "player name" args)
  | .nameAndSwitch command, args => do
    return command (← required "player name" args) (← switch args.tail)
  | .text command, _ => .ok (command text)

def verbs : List (String × Form) := [
  ("join", .word .join),
  ("leave", .alone (.leave true)),
  ("kick", .name fun name => .expel name false),
  ("ban", .name fun name => .expel name true),
  ("unban", .name .unban),
  ("password", .word fun word => .setPassword (word.getD "")),
  ("moderator", .nameAndSwitch fun name on => .setMode name .moderator on),
  ("mute", .nameAndSwitch fun name on => .setMode name .mute on),
  ("owner", .name .setOwner),
  ("whoowner", .alone .queryOwner),
  ("list", .alone .list),
  ("announce", .alone .toggleAnnounce),
  ("moderate", .alone .toggleModerate),
  ("say", .text fun text => .say text .universal),
  ("invite", .name .invite)]

def command (text verb : String) (args : List String) : Except LineError Command :=
  match verbs.lookup verb with
  | some form => form.read text args
  | none => .error (.unknownCommand verb)

def playerLine (text first : String) (rest : List String) : Except LineError ConsoleLine := do
  let actor ← playerId first
  match rest with
  | [] => throw (.missing "command")
  | [_] => throw (.missing "channel")
  | verb :: channel :: args => return .player actor channel (← command text verb args)

/-- Reads a line from its words, and from the text that it has for `say`. -/
def read (text : String) : List String → Except LineError ConsoleLine
  | [] => .error .empty
  | "login" :: args => do return .login (← login args)
  | "logout" :: args => do return .logout (← playerId (← required "id" args))
  | "ignore" :: args => do
    return .ignore (← playerId (← required "who" args)) (← playerId (← required "whom" args.tail))
  | "static" :: args => do
    return .setStatic (← required "channel" args) (← switch args.tail)
  | "channels" :: _ => .ok .channels
  | first :: rest => playerLine text first rest

/-- The verb of a player's line. -/
def verb? : List String → Option String
  | first :: verb :: _ =>
    if first ∈ ["login", "logout", "ignore", "static", "channels"] then none else some verb
  | _ => none

/-- The words that begin lines of their own. Any other word begins a player's line. -/
def openings : List String := ["login", "logout", "ignore", "static", "channels"]

def words (line : String) : List String := (Text.words line.toList).map String.ofList

/-- What a line has to say: all behind the third word, without the white space around it. -/
def spoken (line : String) : String := String.ofList (Text.trim (Text.behind 3 line.toList))

/-! ## What the words decide -/

variable {verb first : String} {ws rest : List String}

theorem mem_openings {word : String} : word ∈ openings ↔
    word = "login" ∨ word = "logout" ∨ word = "ignore" ∨ word = "static" ∨ word = "channels" := by
  simp only [openings, List.mem_cons, List.not_mem_nil, or_false]

theorem read_player (h : first ∉ openings) (text : String) :
    read text (first :: rest) = playerLine text first rest := by
  simp only [mem_openings, not_or] at h
  obtain ⟨hlogin, hlogout, hignore, hstatic, hchannels⟩ := h
  rw [read] <;> assumption

theorem mem_verbs_of_lookup {form : Form} (h : verbs.lookup verb = some form) :
    (verb, form) ∈ verbs := by
  obtain ⟨before, after, hverbs, -⟩ := List.lookup_eq_some_iff.mp h
  exact hverbs ▸ by simp

/-! ## What the text matters to -/

theorem Form.read_text {form : Form} (h : ∀ command, form ≠ .text command) (text text' : String)
    (args : List String) : form.read text args = form.read text' args := by
  cases form with
  | text command => exact absurd rfl (h command)
  | _ => rfl

theorem command_text (h : verb ≠ "say") (text text' : String) (args : List String) :
    command text verb args = command text' verb args := by
  unfold command
  split
  next form hform =>
    apply Form.read_text
    rintro say rfl
    have hmem := mem_verbs_of_lookup hform
    simp [verbs, h] at hmem
  next => rfl

theorem read_text (h : verb? ws ≠ some "say") (text text' : String) :
    read text ws = read text' ws := by
  match ws with
  | [] => rfl
  | first :: rest =>
    by_cases hplayer : first ∈ openings
    · obtain rfl | rfl | rfl | rfl | rfl := mem_openings.mp hplayer <;> rfl
    · rw [read_player hplayer, read_player hplayer]
      match rest with
      | [] => rfl
      | [_] => rfl
      | verb :: channel :: args =>
        have hverb : verb ≠ "say" := by
          rintro rfl
          exact h (if_neg hplayer)
        simp only [playerLine, command_text hverb text text']

end LineGrammar

namespace ConsoleLine

open LineGrammar (words spoken)

/-! ## Words -/

theorem readToken_id (token : Token) :
    readToken "player id" id? token = LineGrammar.playerId (String.ofList token) := by
  rw [readToken, id?, LineGrammar.playerId, LineGrammar.number, String.toList_ofList]
  cases Text.readNumeral UInt64.size token <;> rfl

theorem readToken_code {α : Type} (what : String) (ofCode? : UInt8 → Option α) (token : Token) :
    readToken what (byte? · >>= ofCode?) token =
      LineGrammar.code what ofCode? (String.ofList token) := by
  simp only [readToken, byte?, LineGrammar.code, LineGrammar.number, String.toList_ofList]
  cases Text.readNumeral UInt8.size token with
  | none => rfl
  | some n =>
    dsimp only [Option.map_some, Option.bind_eq_bind, Option.bind_some]
    cases h : ofCode? (.ofNat n) <;> simp only [bind, Except.bind, h] <;> rfl

theorem readToken_rank (token : Token) :
    readToken "rank" byte? token = (do
      return .ofNat (← LineGrammar.number "rank" UInt8.size (String.ofList token))) := by
  rw [readToken, byte?, LineGrammar.number, String.toList_ofList]
  cases Text.readNumeral UInt8.size token <;> rfl

theorem readToken_guild (token : Token) :
    readToken "guild" guild? token = LineGrammar.guild (String.ofList token) := by
  rw [readToken, guild?, LineGrammar.guild, LineGrammar.number, String.toList_ofList]
  cases Text.readNumeral UInt32.size token <;> rfl

theorem readId_eq (missing : String) (args : List Token) :
    readId missing args[0]? = (do
      LineGrammar.playerId (← LineGrammar.required missing (args.map String.ofList))) := by
  cases args with
  | nil => rfl
  | cons token args => exact readToken_id token

theorem readId_tail (missing : String) (args : List Token) :
    readId missing args[1]? = (do
      LineGrammar.playerId (← LineGrammar.required missing (args.map String.ofList).tail)) := by
  cases args with
  | nil => rfl
  | cons token args => exact readId_eq missing args

theorem readName_eq (args : List Token) :
    readName args[0]? = LineGrammar.required "player name" (args.map String.ofList) := by
  cases args <;> rfl

theorem ofList_eq_iff (token : Token) (word : String) :
    String.ofList token = word ↔ token = word.toList := by
  rw [← String.toList_inj, String.toList_ofList]

theorem readSwitch_eq (args : List Token) :
    readSwitch args[0]? = LineGrammar.switch (args.map String.ofList) := by
  cases args with
  | nil => rfl
  | cons token args =>
    simp only [readSwitch, List.getElem?_cons_zero, readRequired, readToken, List.map_cons,
      LineGrammar.switch, ofList_eq_iff]
    by_cases hon : token = "on".toList
    · simp only [hon, if_true]
    · rw [if_neg hon, if_neg hon]
      by_cases hoff : token = "off".toList
      · simp only [hoff, if_true]
      · simp only [hoff, if_false]

theorem readSwitch_tail (args : List Token) :
    readSwitch args[1]? = LineGrammar.switch (args.map String.ofList).tail := by
  cases args with
  | nil => rfl
  | cons token args => exact readSwitch_eq args

theorem ok_bind {ε α β : Type} (a : α) (f : α → Except ε β) : (Except.ok a >>= f) = f a := rfl

theorem readLogin_eq (args : List Token) :
    readLogin args = LineGrammar.login (args.map String.ofList) := by
  rw [readLogin, readId_eq, LineGrammar.login, bind_assoc]
  match args with
  | [] => rfl
  | [id] => rfl
  | id :: name :: rest =>
    simp only [List.map_cons, LineGrammar.required, List.tail_cons]
    -- the fields that are given are read in turn, and the others are what they are by default
    rcases rest with _ | ⟨security, _ | ⟨team, _ | ⟨rank, _ | ⟨guild, surplus⟩⟩⟩⟩ <;>
      simp only [readOptional, LineGrammar.loginFields, List.getElem?_cons_zero,
        List.getElem?_cons_succ, List.getElem?_nil, readToken_code, readToken_rank, readToken_guild,
        List.map_cons, List.map_nil, List.zip_cons_cons, List.zip_nil_left, List.zip_nil_right,
        List.foldlM_cons, List.foldlM_nil, ok_bind, bind_assoc, pure_bind, bind_pure]

theorem readCommand_listed (rest : List Char) : ∀ entry ∈ LineGrammar.verbs,
    readCommand entry.1.toList rest =
      entry.2.read (String.ofList (Text.trim rest)) ((Text.tokens rest).map String.ofList) := by
  simp only [LineGrammar.verbs, List.forall_mem_cons, LineGrammar.Form.read, ← readName_eq,
    ← readSwitch_tail, readCommand, String.ofList_toList, List.not_mem_nil, false_implies,
    implies_true, and_true, true_and]
  -- the passwords of `join` and `password` are left, which need not be given
  cases Text.tokens rest <;> exact ⟨rfl, rfl⟩

theorem readCommand_unlisted {verb : Token}
    (h : LineGrammar.verbs.lookup (String.ofList verb) = none) (rest : List Char) :
    readCommand verb rest = .error (.unknownCommand (String.ofList verb)) := by
  simp only [List.lookup_eq_none_iff, LineGrammar.verbs, List.forall_mem_cons, bne_iff_ne] at h
  unfold readCommand
  dsimp only
  split <;> simp_all

theorem readCommand_eq (verb : Token) (rest : List Char) :
    readCommand verb rest =
      LineGrammar.command (String.ofList (Text.trim rest)) (String.ofList verb)
        ((Text.tokens rest).map String.ofList) := by
  unfold LineGrammar.command
  split
  next form hform =>
    have hread := readCommand_listed rest _ (LineGrammar.mem_verbs_of_lookup hform)
    rwa [String.toList_ofList] at hread
  next hnone => exact readCommand_unlisted hnone rest

/-- A player's line is read by its words: whatever white space is skipped on the way, the verb and the
channel are the next two of them. -/
theorem readPlayerLine_eq (head : Token) (rest : List Char) :
    readPlayerLine head rest =
      LineGrammar.playerLine (String.ofList (Text.trim (Text.behind 2 rest))) (String.ofList head)
        ((Text.tokens rest).map String.ofList) := by
  have hverb := Text.tokens_eq_cut rest
  have hbehind := Text.behind_cut 1 rest
  simp only [readPlayerLine, LineGrammar.playerLine, readToken_id]
  congr 1
  funext actor
  generalize Text.cutAtBlank (Text.trimStart rest) = verb at hverb hbehind
  rcases verb with ⟨_ | ⟨c, verb⟩, behindVerb⟩
  · rw [hverb]
    rfl
  · have hchannel := Text.tokens_eq_cut behindVerb
    have hbehind' := Text.behind_cut 0 behindVerb
    rw [hverb, if_neg (List.cons_ne_nil c verb), ← hbehind, ← hbehind']
    generalize Text.cutAtBlank (Text.trimStart behindVerb) = channel at hchannel hbehind'
    rcases channel with ⟨_ | ⟨d, channel⟩, args⟩
    · rw [hchannel]
      rfl
    · rw [hchannel, if_neg (List.cons_ne_nil d channel)]
      simp only [readCommand_eq]
      rfl

/-- A line that begins with none of the words for other lines is a player's. -/
theorem parse_player {line : String} {head : Token} {rest : List Char}
    (hcut : Text.cutAtBlank (Text.trim line.toList) = (head, rest)) (hhead : head ≠ [])
    (hplayer : String.ofList head ∉ LineGrammar.openings) :
    parse line = readPlayerLine head rest := by
  simp only [LineGrammar.mem_openings, not_or] at hplayer
  obtain ⟨hlogin, hlogout, hignore, hstatic, hchannels⟩ := hplayer
  have hempty : String.ofList head ≠ "" := fun h => hhead ((ofList_eq_iff _ _).mp h)
  rw [parse, hcut]
  dsimp only
  split <;> first | contradiction | rfl

theorem parse_eq (line : String) : parse line = LineGrammar.read (spoken line) (words line) := by
  have hhead := Text.tokens_eq_cut (Text.trim line.toList)
  have hbehind := Text.behind_cut 2 (Text.trim line.toList)
  rw [Text.trimStart_of_head? (Text.isTrimmed_trim _).1] at hhead hbehind
  rw [Text.tokens_trim, Text.tokens_eq_words] at hhead
  rw [Text.behind_trim] at hbehind
  rw [spoken, ← hbehind, words, hhead]
  generalize hcut : Text.cutAtBlank (Text.trim line.toList) = cut
  obtain ⟨head, rest⟩ := cut
  by_cases hempty : head = []
  · rw [parse, hcut, if_pos hempty, hempty]
    rfl
  · rw [if_neg hempty, List.map_cons]
    by_cases hplayer : String.ofList head ∈ LineGrammar.openings
    · rw [parse, hcut]
      obtain hlogin | hlogout | hignore | hstatic | hchannels := LineGrammar.mem_openings.mp hplayer
      · simp only [hlogin, readLogin_eq]
        rfl
      · simp only [hlogout, readId_eq, bind_assoc]
        rfl
      · simp only [hignore, readId_eq, readId_tail, bind_assoc]
        rfl
      · simp only [hstatic, readSwitch_tail]
        cases Text.tokens rest <;> rfl
      · simp only [hchannels]
        rfl
    · rw [parse_player hcut hempty hplayer, readPlayerLine_eq, LineGrammar.read_player hplayer]

/-- A line is read as the grammar reads its words, so two lines of the same words are read alike unless
they have something to say. Numbers are digits behind an optional plus sign, below a bound. -/
theorem parse_by_words :
    (∀ line, parse line = LineGrammar.read (spoken line) (words line)) ∧
      (∀ a b, words a = words b → LineGrammar.verb? (words a) ≠ some "say" → parse a = parse b) ∧
      ∀ bound cs n, Text.readNumeral bound cs = some n ↔
        ∃ digits, (cs = digits ∨ cs = '+' :: digits) ∧ digits ≠ [] ∧ (∀ d ∈ digits, d.isDigit) ∧
          Nat.ofDigitChars 10 digits 0 = n ∧ n < bound := by
  refine ⟨parse_eq, ?_, fun _ _ _ => Text.readNumeral_eq_some_iff⟩
  intro a b hwords hverb
  rw [parse_eq, parse_eq, LineGrammar.read_text hverb (spoken a) (spoken b), hwords]

/-- White space of three kinds and a word too many make no difference to a join, and what is said keeps
the white space inside it. -/
theorem parse_by_words_spaced :
    let plain := "+7 join Raiders key now"
    let spaced := "  +7\tjoin\u3000 Raiders key  now "
    words plain = words spaced ∧ LineGrammar.verb? (words plain) ≠ some "say" ∧
      parse plain = parse spaced ∧
      (parse plain).toOption = some (.player ⟨7⟩ "Raiders" (.join (some "key"))) ∧
      (parse "7  say Raiders \t a  b ").toOption =
        some (.player ⟨7⟩ "Raiders" (.say "a  b" .universal)) ∧
      parse "x dance" = .error (.invalid "player id" "x") := by
  intro plain spaced
  obtain ⟨hread, halike, -⟩ := parse_by_words
  have hwords : words plain = words spaced := by decide +kernel
  have hverb : LineGrammar.verb? (words plain) ≠ some "say" := by decide +kernel
  refine ⟨hwords, hverb, halike plain spaced hwords hverb, ?_, ?_, ?_⟩
  · rw [hread]
    decide +kernel
  · rw [hread]
    decide +kernel
  · have hx : words "x dance" = ["x", "dance"] := by decide +kernel
    rw [hread, hx]
    rfl

end ConsoleLine
end ChatChannels
