import ChatChannels.Proofs.Console.Line

/-! Lines for commands. What a line can be read as is what can be written as one, and the line written
for it is read as that again: no text of `say`, no name and no password is mistaken for another
command. -/
namespace ChatChannels

open Text (IsWord IsTrimmed IsField spaced spaced_singleton)

namespace Command

/-- The word that a line has for a command. -/
def verb : Command → String
  | .join _ => "join"
  | .leave _ => "leave"
  | .expel _ ban => if ban then "ban" else "kick"
  | .unban _ => "unban"
  | .setPassword _ => "password"
  | .setMode _ .moderator _ => "moderator"
  | .setMode _ .mute _ => "mute"
  | .setOwner _ => "owner"
  | .queryOwner => "whoowner"
  | .list => "list"
  | .toggleAnnounce => "announce"
  | .toggleModerate => "moderate"
  | .say .. => "say"
  | .invite _ => "invite"

def switch (on : Bool) : String := if on then "on" else "off"

/-- Text as a field, which is left out if it is empty. -/
def given (text : String) : List String := if text = "" then [] else [text]

/-- What follows the channel in a line. -/
def args : Command → List String
  | .join password => password.toList
  | .expel target _ | .unban target | .setOwner target | .invite target => [target]
  | .setMode target _ on => [target, switch on]
  | .setPassword text | .say text _ => given text
  | .leave _ | .queryOwner | .list | .toggleAnnounce | .toggleModerate => []

end Command

namespace ConsoleLine

def fields : ConsoleLine → List String
  | .login p => ["login", toString p.id, p.name, toString p.security.code, toString p.team.code,
      toString p.rank, toString (p.guild.getD 0)]
  | .logout id => ["logout", toString id]
  | .ignore who whom => ["ignore", toString who, toString whom]
  | .setStatic channel want => ["static", channel, Command.switch want]
  | .channels => ["channels"]
  | .player actor channel command => toString actor :: command.verb :: channel :: command.args

/-- The line for a command: its fields with single spaces between them. -/
def print (line : ConsoleLine) : String := " ".intercalate line.fields

variable {line : ConsoleLine} {command : Command}

/-! ## Fields -/

theorem isWord_repr (n : Nat) : IsWord n.repr.toList := by
  rw [Nat.toList_repr]
  exact Text.isWord_toDigits n

theorem readNumeral_repr {n bound : Nat} (h : n < bound) :
    Text.readNumeral bound n.repr.toList = some n := by
  rw [Nat.toList_repr]
  exact Text.readNumeral_toDigits h

theorem id?_print (id : PlayerId) : id? (toString id).toList = some id := by
  have hread : Text.readNumeral UInt64.size (toString id).toList = some id.toNat :=
    readNumeral_repr id.val.toNat_lt_size
  rw [id?, hread]
  exact congrArg (fun val => some (PlayerId.mk val)) UInt64.ofNat_toNat

theorem byte?_print (b : UInt8) : byte? (toString b).toList = some b := by
  have hread : Text.readNumeral UInt8.size (toString b).toList = some b.toNat :=
    readNumeral_repr b.toNat_lt_size
  rw [byte?, hread]
  exact congrArg some UInt8.ofNat_toNat

theorem guild?_print {guild : Option UInt32} (h : guild ≠ some 0) :
    guild? (toString (guild.getD 0)).toList = some guild := by
  have hread : Text.readNumeral UInt32.size (toString (guild.getD 0)).toList =
      some (guild.getD 0).toNat := readNumeral_repr (guild.getD 0).toNat_lt_size
  rw [guild?, hread]
  cases guild with
  | none => rfl
  | some g =>
    have hne : g.toNat ≠ 0 := fun hzero => h (congrArg some (UInt32.toNat_inj.mp hzero))
    rw [Option.getD_some, Option.map_some, if_neg hne, UInt32.ofNat_toNat]

theorem isWord_switch (on : Bool) : IsWord (Command.switch on).toList := by
  cases on <;> decide

theorem readSwitch_print (on : Bool) : readSwitch (some (Command.switch on).toList) = .ok on := by
  cases on <;> rfl

/-! ## Commands -/

theorem mem_given {text arg : String} : arg ∈ Command.given text ↔ text ≠ "" ∧ arg = text := by
  rw [Command.given]
  split <;> simp [*]

theorem isWord_args (h : command.Printable)
    (hsay : ∀ text language, command ≠ .say text language) :
    ∀ arg ∈ command.args, IsWord arg.toList := by
  cases command with
  | join password => exact fun arg harg => h arg (Option.mem_toList.mp harg)
  | expel target _ | unban target | setOwner target | invite target =>
    exact List.forall_mem_singleton.mpr h
  | setMode target _ on =>
    exact List.forall_mem_cons.mpr ⟨h, List.forall_mem_singleton.mpr (isWord_switch on)⟩
  | setPassword password =>
    intro arg harg
    obtain ⟨hne, rfl⟩ := mem_given.mp harg
    exact h hne
  | say text language => exact absurd rfl (hsay text language)
  | leave _ | queryOwner | list | toggleAnnounce | toggleModerate => exact fun _ harg => by cases harg

theorem isField_args (h : command.Printable) : ∀ arg ∈ command.args, IsField arg.toList := by
  intro arg harg
  by_cases hsay : ∃ text language, command = .say text language
  · obtain ⟨text, language, rfl⟩ := hsay
    obtain ⟨hne, rfl⟩ := mem_given.mp harg
    exact ⟨fun he => hne (String.toList_eq_nil_iff.mp he), h.2⟩
  · exact (isWord_args h (fun text language he => hsay ⟨text, language, he⟩) arg harg).isField

theorem readCommand_print (h : command.Printable) :
    readCommand command.verb.toList (spaced (command.args.map String.toList)) = .ok command := by
  rw [readCommand_eq, String.ofList_toList]
  by_cases hsay : ∃ text language, command = .say text language
  · obtain ⟨text, language, rfl⟩ := hsay
    obtain ⟨rfl, htext⟩ := h
    by_cases hempty : text = ""
    · rw [hempty]
      rfl
    · simp only [Command.args, Command.given, hempty, if_false, List.map_cons, List.map_nil,
        spaced_singleton, htext.trim, String.ofList_toList]
      rfl
  · have hwords := isWord_args h fun text language he => hsay ⟨text, language, he⟩
    have hargs : (command.args.map String.toList).map String.ofList = command.args := by
      simp only [List.map_map, Function.comp_def, String.ofList_toList, List.map_id']
    rw [Text.tokens_spaced (List.forall_mem_map.mpr hwords), hargs]
    cases command with
    | join password => cases password <;> rfl
    | leave notify =>
      cases (h : notify = true)
      rfl
    | expel target ban => cases ban <;> rfl
    | setMode target mode on => cases mode <;> cases on <;> rfl
    | setPassword password =>
      by_cases hempty : password = ""
      · rw [hempty]
        rfl
      · simp only [Command.args, Command.given, hempty, if_false]
        rfl
    | say text language => exact absurd ⟨text, language, rfl⟩ hsay
    | unban _ | setOwner _ | invite _ | queryOwner | list | toggleAnnounce | toggleModerate => rfl

/-- A line begins with a word, and what follows that is told from it. -/
theorem cut_fields {word : String} {rest : List String} (hword : IsWord word.toList)
    (hrest : ∀ field ∈ rest, IsField field.toList) :
    Text.cutAtBlank (Text.trim (" ".intercalate (word :: rest)).toList) =
      (word.toList, spaced (rest.map String.toList)) := by
  have hfields : ∀ field ∈ (word :: rest).map String.toList, IsField field :=
    List.forall_mem_map.mpr (List.forall_mem_cons.mpr ⟨hword.isField, hrest⟩)
  have htrim := (Text.isTrimmed_spaced hfields).trim
  rw [String.toList_intercalate]
  exact (congrArg Text.cutAtBlank htrim).trans (Text.cutAtBlank_spaced hword _)

theorem cut_words (word : String) {args : List String} (hword : IsWord word.toList)
    (hargs : ∀ arg ∈ args, IsWord arg.toList) :
    let cut := Text.cutAtBlank (Text.trim (" ".intercalate (word :: args)).toList)
    cut.1 = word.toList ∧ Text.tokens cut.2 = args.map String.toList := by
  intro cut
  have hcut : cut = _ := cut_fields hword fun arg harg => (hargs arg harg).isField
  rw [hcut]
  exact ⟨rfl, Text.tokens_spaced (List.forall_mem_map.mpr hargs)⟩

theorem isWord_verb (command : Command) : IsWord command.verb.toList := by
  unfold Command.verb
  repeat' split
  all_goals decide

theorem readPlayerLine_print (actor : PlayerId) {channel : String} (hchannel : IsWord channel.toList)
    (h : command.Printable) :
    readPlayerLine (toString actor).toList
        (spaced (command.verb.toList :: channel.toList :: command.args.map String.toList)) =
      .ok (.player actor channel command) := by
  have hverb := isWord_verb command
  have hfields : ∀ field ∈ channel.toList :: command.args.map String.toList, IsField field :=
    List.forall_mem_cons.mpr ⟨hchannel.isField, List.forall_mem_map.mpr (isField_args h)⟩
  have hline := Text.isTrimmed_spaced (List.forall_mem_cons.mpr ⟨hverb.isField, hfields⟩)
  have hrest := Text.isTrimmed_spaced hfields
  rw [readPlayerLine, readToken, id?_print]
  dsimp only
  rw [Text.trimStart_of_head? hline.1, Text.cutAtBlank_spaced hverb, Text.trimStart_of_head? hrest.1,
    Text.cutAtBlank_spaced hchannel, readCommand_print h]
  simp only [List.isEmpty_iff, hverb.1, hchannel.1, if_false, String.ofList_toList]
  rfl

theorem readId_print (missing : String) (id : PlayerId) :
    readId missing (some (toString id).toList) = .ok id := by
  simp only [readId, readRequired, readToken, id?_print]

theorem readLogin_print {p : Player} (h : p.guild ≠ some 0) :
    readLogin [(toString p.id).toList, p.name.toList, (toString p.security.code).toList,
      (toString p.team.code).toList, (toString p.rank).toList, (toString (p.guild.getD 0)).toList] =
      .ok p := by
  simp only [readLogin, readOptional, readToken]
  simp only [List.getElem?_cons_zero, List.getElem?_cons_succ, readId_print, byte?_print,
    guild?_print h, Option.bind_eq_bind, Option.bind_some, SecurityLevel.ofCode?_code,
    Team.ofCode?_code, String.ofList_toList]
  rfl

/-- No number is one of the words for other lines. -/
theorem repr_notMem_openings (n : Nat) : n.repr ∉ LineGrammar.openings := by
  have hopenings : ∀ word ∈ LineGrammar.openings, ¬word.toList.all Char.isDigit := by decide
  intro hmem
  apply hopenings _ hmem
  rw [Nat.toList_repr, Text.all_isDigit_toDigits]

theorem parse_of_repr {n : Nat} {text : String} {rest : List Char}
    (h : Text.cutAtBlank (Text.trim text.toList) = (n.repr.toList, rest)) :
    parse text = readPlayerLine n.repr.toList rest := by
  refine parse_player h (isWord_repr n).1 ?_
  rw [String.ofList_toList]
  exact repr_notMem_openings n

theorem parse_print (h : line.Printable) : parse line.print = .ok line := by
  cases line with
  | login p =>
    obtain ⟨hname, hguild⟩ := h
    have hargs : ∀ arg ∈ [toString p.id, p.name, toString p.security.code, toString p.team.code,
        toString p.rank, toString (p.guild.getD 0)], IsWord arg.toList := by
      simp only [List.forall_mem_cons]
      exact ⟨isWord_repr _, hname, isWord_repr _, isWord_repr _, isWord_repr _, isWord_repr _,
        fun _ hnone => by cases hnone⟩
    obtain ⟨hword, htokens⟩ := cut_words "login" (by decide) hargs
    simp only [parse, print, fields, hword, htokens, String.ofList_toList, List.map_cons, List.map_nil,
      readLogin_print hguild]
    rfl
  | logout id =>
    have hargs : ∀ arg ∈ [toString id], IsWord arg.toList :=
      List.forall_mem_singleton.mpr (isWord_repr _)
    obtain ⟨hword, htokens⟩ := cut_words "logout" (by decide) hargs
    simp only [parse, print, fields, hword, htokens, String.ofList_toList, List.map_cons,
      List.getElem?_cons_zero, readId_print]
    rfl
  | ignore who whom =>
    have hargs : ∀ arg ∈ [toString who, toString whom], IsWord arg.toList :=
      List.forall_mem_cons.mpr ⟨isWord_repr _, List.forall_mem_singleton.mpr (isWord_repr _)⟩
    obtain ⟨hword, htokens⟩ := cut_words "ignore" (by decide) hargs
    simp only [parse, print, fields, hword, htokens, String.ofList_toList, List.map_cons,
      List.getElem?_cons_zero, List.getElem?_cons_succ, readId_print]
    rfl
  | setStatic channel want =>
    have hargs : ∀ arg ∈ [channel, Command.switch want], IsWord arg.toList :=
      List.forall_mem_cons.mpr ⟨h, List.forall_mem_singleton.mpr (isWord_switch want)⟩
    obtain ⟨hword, htokens⟩ := cut_words "static" (by decide) hargs
    simp only [parse, print, fields, hword, htokens, String.ofList_toList, List.map_cons,
      List.getElem?_cons_zero, List.getElem?_cons_succ, readSwitch_print]
    rfl
  | channels => rfl
  | player actor channel command =>
    obtain ⟨hchannel, hcommand⟩ := h
    have hargs : ∀ arg ∈ command.verb :: channel :: command.args, IsField arg.toList :=
      List.forall_mem_cons.mpr ⟨(isWord_verb command).isField,
        List.forall_mem_cons.mpr ⟨hchannel.isField, isField_args hcommand⟩⟩
    exact (parse_of_repr (cut_fields (isWord_repr actor.toNat) hargs)).trans
      (readPlayerLine_print actor hchannel hcommand)

/-- What can be written as a line is read from it again, and nothing else can be read from a line. -/
theorem parse_inverts_print :
    (∀ line : ConsoleLine, line.Printable → parse line.print = .ok line) ∧
      ∀ text line, parse text = .ok line → line.Printable :=
  ⟨fun _ h => parse_print h, fun _ _ h => printable_of_parse h⟩

/-- Every number is as large as can be, and what the player says looks like two more lines, one of them
broken by a tab. -/
theorem parse_inverts_print_largest :
    let p : Player := ⟨⟨18446744073709551615⟩, "Ann", .administrator, .horde, some 4294967295, 255⟩
    let spoken := ConsoleLine.player p.id "Raiders" (.say "logout 1  channels\toff" .universal)
    ((login p).Printable ∧ spoken.Printable ∧ ¬(login { p with guild := some 0 }).Printable) ∧
      (login p).print = "login 18446744073709551615 Ann 3 1 255 4294967295" ∧
      spoken.print = "18446744073709551615 say Raiders logout 1  channels\toff" ∧
      parse (login p).print = .ok (login p) ∧ parse spoken.print = .ok spoken := by
  intro p spoken
  have hlogin : (login p).Printable := ⟨by decide, by decide⟩
  have hspoken : spoken.Printable := ⟨by decide, rfl, by decide⟩
  exact ⟨⟨hlogin, hspoken, fun h => h.2 rfl⟩, by decide +kernel, by decide +kernel,
    parse_inverts_print.1 _ hlogin, parse_inverts_print.1 _ hspoken⟩

end ConsoleLine
end ChatChannels
