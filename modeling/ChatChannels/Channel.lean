import ChatChannels.Bans
import ChatChannels.Catalog
import ChatChannels.Delivery
import ChatChannels.Policy
import ChatChannels.Text.Character

/-! Channels: what they consist of, what class they are of, and how they speak to their members. -/
namespace ChatChannels

structure Channel where
  name : String
  /-- The identity in the catalog; 0 for a channel that is not built in. -/
  id : UInt32
  flags : ChannelFlags
  password : Option String := none
  announce : Bool
  moderate : Bool := false
  isStatic : Bool := false
  /-- Whether the channel counts as one of the realm's public language. -/
  realmRestricted : Bool
  owner : Option PlayerId := none
  bans : Bans := ∅
  roster : Roster := ∅
deriving DecidableEq

/-- What becomes of a request that is not refused. -/
inductive Outcome where
  | applied
  | unchanged
deriving DecidableEq

abbrev Answer := Except Refusal Outcome

structure Turn (α : Type) where
  channel : Channel
  answer : α
  events : List Event

inductive Report where
  | notify
  | silent
deriving DecidableEq

namespace Channel

def builtIn (e : CatalogEntry) : Channel where
  name := e.name
  id := e.id
  flags := e.flags
  announce := false
  realmRestricted := true

/-- A channel made by a user; a name in the public language makes it one of the realm. -/
def custom (name : String) : Channel where
  name := name
  id := 0
  flags := .custom
  announce := true
  realmRestricted := Text.isPublicLanguage name

def isBuiltIn (c : Channel) : Bool := c.id ≠ 0

/-- Public channels have no owner. -/
def isPublic (c : Channel) : Bool := c.isBuiltIn || c.isStatic

/-- A channel to be given up, with nobody in it and neither built in nor static. -/
def isDisposable (c : Channel) : Bool := !c.isPublic && c.roster.isEmpty

def contains (c : Channel) (p : PlayerId) : Bool := c.roster.contains p

variable (w : World) (c : Channel)

def notice (body : NoticeBody) : Message := .notice ⟨c.name, body⟩

def broadcast (body : NoticeBody) : List Event := w.sendToAll c.roster (c.notice body)

def tell (p : PlayerId) (body : NoticeBody) : List Event := w.sendTo p (c.notice body)

def refuse (actor : PlayerId) (report : Report) (cause : Refusal) : Turn Answer where
  channel := c
  answer := .error cause
  events :=
    match report, cause.noticeBody? with
    | .notify, some body => c.tell w actor body
    | _, _ => []

def reject (actor : PlayerId) (cause : Refusal) : Turn Answer := c.refuse w actor .notify cause

@[simp] theorem refuse_channel (actor : PlayerId) (report : Report) (cause : Refusal) :
    (c.refuse w actor report cause).channel = c := rfl

@[simp] theorem refuse_answer (actor : PlayerId) (report : Report) (cause : Refusal) :
    (c.refuse w actor report cause).answer = .error cause := rfl

@[simp] theorem reject_channel (actor : PlayerId) (cause : Refusal) :
    (c.reject w actor cause).channel = c := rfl

@[simp] theorem reject_answer (actor : PlayerId) (cause : Refusal) :
    (c.reject w actor cause).answer = .error cause := rfl

def unchanged : Turn Answer := ⟨c, .ok .unchanged, []⟩

def broadcastRoleChange (change : RoleChange) : List Event :=
  c.broadcast w (.roleChanged change.player change.old change.new)

def announces (p : Policy) (actor : Player) : Bool :=
  c.announce && p.announcesPresence actor.security

/-- Gives the channel to another owner, or to none. The members hear of every role change and, if
it is proclaimed, of the new owner. -/
def setOwner (next : Option PlayerId) (proclaim : Bool) : Turn Unit :=
  let transfer := c.roster.transfer c.owner next
  let owned := { c with roster := transfer.1, owner := next }
  { channel := owned
    answer := ()
    events := transfer.2.flatMap (owned.broadcastRoleChange w) ++
      if proclaim then owned.broadcast w (.ownerChanged next) else [] }

/-- Gives the channel to its successor, proclaimed if two or more members remain. -/
def succeed : Turn Unit := c.setOwner w c.roster.successor (1 < c.roster.size)

end Channel
end ChatChannels
