import ChatChannels.Proofs.Console.Grammar

/-! What lines are read as. Names, passwords and channels are words, and the text of `say` has no white
space at its ends. So no one logs in without a name. -/
namespace ChatChannels

open Text (IsWord IsTrimmed)

/-- A command that a line can be read as. Whoever leaves is told so, and a line does not say in which
language it is spoken. -/
def Command.Printable : Command → Prop
  | .join password => ∀ word ∈ password, IsWord word.toList
  | .leave notify => notify = true
  | .setPassword password => password ≠ "" → IsWord password.toList
  | .expel target _ | .unban target | .setMode target _ _ | .setOwner target | .invite target =>
    IsWord target.toList
  | .say text language => language = .universal ∧ IsTrimmed text.toList
  | .queryOwner | .list | .toggleAnnounce | .toggleModerate => True

namespace ConsoleLine

/-- Guild 0 is no guild, so no player of that guild can be typed. -/
def Printable : ConsoleLine → Prop
  | .login p => IsWord p.name.toList ∧ p.guild ≠ some 0
  | .setStatic channel _ => IsWord channel.toList
  | .player _ channel command => IsWord channel.toList ∧ command.Printable
  | .logout _ | .ignore .. | .channels => True

variable {rest : List Char} {i : Nat}

theorem bind_ok {ε α β : Type} {x : Except ε α} {f : α → Except ε β} {b : β}
    (h : x >>= f = .ok b) : ∃ a, x = .ok a ∧ f a = .ok b := by
  cases x with
  | error e => cases h
  | ok a => exact ⟨a, rfl, h⟩

theorem readToken_ok {α : Type} {what : String} {read : Token → Option α} {token : Token} {a : α}
    (h : readToken what read token = .ok a) : read token = some a := by
  unfold readToken at h
  split at h
  next hread =>
    cases h
    exact hread
  next => cases h

theorem isWord_ofList {token : Token} (h : IsWord token) : IsWord (String.ofList token).toList := by
  rwa [String.toList_ofList]

theorem isWord_arg {token : Token} (h : (Text.tokens rest)[i]? = some token) :
    IsWord (String.ofList token).toList :=
  isWord_ofList (Text.isWord_of_mem_tokens (List.mem_of_getElem? h))

theorem guild?_ne_zero {token : Token} {guild : Option UInt32} (h : guild? token = some guild) :
    guild ≠ some 0 := by
  obtain ⟨n, hn, rfl⟩ := Option.map_eq_some_iff.mp h
  split
  next => exact Option.some_ne_none _ |>.symm
  next hne =>
    intro hzero
    have htoNat := congrArg UInt32.toNat (Option.some.inj hzero)
    rw [UInt32.toNat_ofNat_of_lt' (Text.lt_of_readNumeral hn)] at htoNat
    exact hne htoNat

theorem readLogin_printable {p : Player} (h : readLogin (Text.tokens rest) = .ok p) :
    (login p).Printable := by
  unfold readLogin at h
  obtain ⟨id, _, h⟩ := bind_ok h
  split at h
  next token htoken =>
    obtain ⟨name, hname, h⟩ := bind_ok h
    obtain ⟨security, _, h⟩ := bind_ok h
    obtain ⟨team, _, h⟩ := bind_ok h
    obtain ⟨rank, _, h⟩ := bind_ok h
    obtain ⟨guild, hguild, h⟩ := bind_ok h
    cases h
    cases hname
    refine ⟨isWord_arg htoken, ?_⟩
    unfold readOptional at hguild
    split at hguild
    next =>
      cases hguild
      exact Option.some_ne_none _ |>.symm
    next => exact guild?_ne_zero (readToken_ok hguild)
  next => cases h

end ConsoleLine

namespace LineGrammar

/-! ## Forms

What a verb makes of words is printable, by the form of the verb. -/

def Form.Printable : Form → Prop
  | .alone command => command.Printable
  | .word command => ∀ given : Option String, (∀ word ∈ given, IsWord word.toList) →
    (command given).Printable
  | .name command => ∀ name : String, IsWord name.toList → (command name).Printable
  | .nameAndSwitch command => ∀ (name : String) (on : Bool), IsWord name.toList →
    (command name on).Printable
  | .text command => ∀ text : String, IsTrimmed text.toList → (command text).Printable

theorem printable_of_mem_verbs : ∀ entry ∈ verbs, entry.2.Printable := by
  -- a password is cleared if there is no word for it
  have hpassword : ∀ given : Option String, (∀ word ∈ given, IsWord word.toList) →
      (Command.setPassword (given.getD "")).Printable := by
    intro given hgiven hne
    cases given with
    | none => exact absurd rfl hne
    | some word => exact hgiven word rfl
  simpa +contextual [verbs, Form.Printable, Command.Printable] using hpassword

theorem required_mem {missing word : String} {args : List String}
    (h : required missing args = .ok word) : word ∈ args := by
  cases args with
  | nil => cases h
  | cons first args =>
    cases h
    exact List.mem_cons_self

theorem Form.Printable.read {form : Form} (h : form.Printable) {text : String} {args : List String}
    {command : Command} (htext : IsTrimmed text.toList) (hargs : ∀ arg ∈ args, IsWord arg.toList)
    (hread : form.read text args = .ok command) : command.Printable := by
  cases form with
  | alone _ =>
    cases hread
    exact h
  | word _ =>
    cases hread
    exact h _ fun word hword => hargs word (List.mem_of_head? hword)
  | name _ =>
    obtain ⟨name, hname, hread⟩ := ConsoleLine.bind_ok hread
    cases hread
    exact h name (hargs name (required_mem hname))
  | nameAndSwitch _ =>
    obtain ⟨name, hname, hread⟩ := ConsoleLine.bind_ok hread
    obtain ⟨on, _, hread⟩ := ConsoleLine.bind_ok hread
    cases hread
    exact h name on (hargs name (required_mem hname))
  | text _ =>
    cases hread
    exact h text htext

end LineGrammar

namespace ConsoleLine

variable {rest : List Char} {line : ConsoleLine}

theorem readCommand_printable {verb : Token} {command : Command}
    (h : readCommand verb rest = .ok command) : command.Printable := by
  rw [readCommand_eq, LineGrammar.command] at h
  split at h
  next form hlookup =>
    have hform := LineGrammar.printable_of_mem_verbs _ (LineGrammar.mem_verbs_of_lookup hlookup)
    have hargs : ∀ arg ∈ (Text.tokens rest).map String.ofList, IsWord arg.toList :=
      List.forall_mem_map.mpr fun token htoken => isWord_ofList (Text.isWord_of_mem_tokens htoken)
    refine hform.read ?_ hargs h
    rw [String.toList_ofList]
    exact Text.isTrimmed_trim rest
  next => cases h

theorem readPlayerLine_printable {head : Token} (h : readPlayerLine head rest = .ok line) :
    line.Printable := by
  unfold readPlayerLine at h
  obtain ⟨actor, _, h⟩ := bind_ok h
  dsimp only at h
  split at h
  next => cases h
  next =>
    split at h
    next => cases h
    next hchannel =>
      obtain ⟨command, hcommand, h⟩ := bind_ok h
      cases h
      refine ⟨isWord_ofList ⟨?_, Text.not_blank_of_mem_cutAtBlank⟩, readCommand_printable hcommand⟩
      exact fun hempty => hchannel (List.isEmpty_iff.mpr hempty)

theorem printable_of_parse {text : String} (h : parse text = .ok line) : line.Printable := by
  unfold parse at h
  dsimp only at h
  split at h
  next => cases h
  next =>
    obtain ⟨q, hq, h⟩ := bind_ok h
    cases h
    exact readLogin_printable hq
  next =>
    obtain ⟨_, _, h⟩ := bind_ok h
    cases h
    trivial
  next =>
    obtain ⟨_, _, h⟩ := bind_ok h
    obtain ⟨_, _, h⟩ := bind_ok h
    cases h
    trivial
  next =>
    split at h
    next => cases h
    next harg =>
      obtain ⟨_, _, h⟩ := bind_ok h
      cases h
      exact isWord_arg harg
  next =>
    cases h
    trivial
  next => exact readPlayerLine_printable h

/-- Nobody logs in without a name. -/
theorem parse_login {text : String} {p : Player} (h : parse text = .ok (.login p)) :
    p.name ≠ "" := by
  intro hempty
  have hname := (printable_of_parse h).1.1
  rw [hempty] at hname
  exact hname rfl

end ConsoleLine
end ChatChannels
