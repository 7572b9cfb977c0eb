import ChatChannels.Data
import ChatChannels.Text.Numeral

/-! Players and what channels know about them: identity, security level, team and language. -/
namespace ChatChannels

structure PlayerId where
  val : UInt64
deriving DecidableEq, Inhabited

namespace PlayerId

def toNat (id : PlayerId) : Nat := id.val.toNat

instance : ToString PlayerId := ⟨fun id => toString id.toNat⟩

@[ext] theorem ext {a b : PlayerId} (h : a.toNat = b.toNat) : a = b := by
  obtain ⟨a⟩ := a
  obtain ⟨b⟩ := b
  exact congrArg mk (UInt64.toNat_inj.mp h)

def data (id : PlayerId) : Data := .nat id.toNat
def ofData? (d : Data) : Option PlayerId := d.word64?.map mk

end PlayerId

/-- A raw value that no value of its kind is written as. -/
inductive UnknownValue where
  | notice (code : UInt8)
  | security (level : UInt8)
  | team (number : UInt8)
  | roleBits (bits : UInt8)
deriving DecidableEq

def UnknownValue.message : UnknownValue → String
  | .notice code => s!"unknown notice code {Text.hexByte code}"
  | .security level => s!"unknown security level {level}"
  | .team number => s!"unknown team {number}"
  | .roleBits bits => s!"member flags {Text.hexByte bits} carry undefined bits"

inductive SecurityLevel where
  | player
  | moderator
  | gameMaster
  | administrator
deriving DecidableEq, Inhabited

namespace SecurityLevel

def code : SecurityLevel → UInt8
  | .player => 0
  | .moderator => 1
  | .gameMaster => 2
  | .administrator => 3

def ofCode? : UInt8 → Option SecurityLevel
  | 0 => some .player
  | 1 => some .moderator
  | 2 => some .gameMaster
  | 3 => some .administrator
  | _ => none

theorem ofCode?_code (s : SecurityLevel) : ofCode? s.code = some s := by cases s <;> rfl

def decode (raw : UInt8) : Except UnknownValue SecurityLevel :=
  match ofCode? raw with
  | some s => .ok s
  | none => .error (.security raw)

instance : LE SecurityLevel := ⟨fun a b => a.code ≤ b.code⟩
instance : LT SecurityLevel := ⟨fun a b => a.code < b.code⟩
instance (a b : SecurityLevel) : Decidable (a ≤ b) := inferInstanceAs (Decidable (a.code ≤ b.code))
instance (a b : SecurityLevel) : Decidable (a < b) := inferInstanceAs (Decidable (a.code < b.code))

def isGameMaster (s : SecurityLevel) : Bool := SecurityLevel.gameMaster ≤ s

def label : SecurityLevel → String
  | .player => "player"
  | .moderator => "moderator"
  | .gameMaster => "gamemaster"
  | .administrator => "administrator"

def word : SecurityLevel → String
  | .player => "player"
  | .moderator => "moderator"
  | .gameMaster => "game_master"
  | .administrator => "administrator"

def all : List SecurityLevel := [.player, .moderator, .gameMaster, .administrator]

def ofWord? (w : String) : Option SecurityLevel := all.find? fun s => s.word = w

end SecurityLevel

inductive Team where
  | alliance
  | horde
deriving DecidableEq, Inhabited

namespace Team

def code : Team → UInt8
  | .alliance => 0
  | .horde => 1

def ofCode? : UInt8 → Option Team
  | 0 => some .alliance
  | 1 => some .horde
  | _ => none

theorem ofCode?_code (t : Team) : ofCode? t.code = some t := by cases t <;> rfl

def decode (raw : UInt8) : Except UnknownValue Team :=
  match ofCode? raw with
  | some t => .ok t
  | none => .error (.team raw)

def word : Team → String
  | .alliance => "alliance"
  | .horde => "horde"

def ofWord? (w : String) : Option Team := [Team.alliance, .horde].find? fun t => t.word = w

end Team

/-- A value that stands for one of a few names is given by its name, or by a table with that name
as its only key and nothing under it. -/
def Data.wordOf? {α : Type} (ofWord? : String → Option α) : Data → Option α
  | .text s => ofWord? s
  | .table [(key, .null)] => ofWord? key
  | _ => none

def SecurityLevel.ofData? : Data → Option SecurityLevel := Data.wordOf? ofWord?
def Team.ofData? : Data → Option Team := Data.wordOf? ofWord?

structure Language where
  code : UInt32
deriving DecidableEq, Inhabited

/-- The language that every faction understands. -/
def Language.universal : Language := ⟨0⟩

def Language.ofData? (d : Data) : Option Language := d.word32?.map mk

structure Player where
  id : PlayerId
  name : String
  security : SecurityLevel := .player
  team : Team := .alliance
  guild : Option UInt32 := none
  rank : UInt8 := 0
deriving DecidableEq, Inhabited

def Player.isGameMaster (p : Player) : Bool := p.security.isGameMaster

end ChatChannels
