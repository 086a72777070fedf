/-!
# `ClusterProvision.Channel`: a bounded channel

A message sent to a channel that is full or closed is lost; sending never waits. Closing
a channel also drops the messages in it. So an open channel keeps the first of the messages
that it is sent, as many as it has room for (`sendAll_of_open`).
-/

set_option autoImplicit false

namespace ClusterProvision

/-- A channel: how many messages it holds at most, the messages in it, oldest first, and
whether anyone still receives from it. -/
structure Channel (α : Type) where
  capacity : Nat
  queue : List α := []
  isOpen : Bool := true
  deriving DecidableEq, Repr

namespace Channel

variable {α : Type}

/-- Sends a message. -/
def send (channel : Channel α) (message : α) : Channel α :=
  if channel.isOpen && channel.queue.length < channel.capacity then
    { channel with queue := channel.queue ++ [message] }
  else channel

/-- A message that finds a receiver and room is the latest in the channel. -/
theorem send_of_room {channel : Channel α} (hopen : channel.isOpen = true)
    (hroom : channel.queue.length < channel.capacity) (message : α) :
    channel.send message = { channel with queue := channel.queue ++ [message] } := by
  rw [send, hopen, decide_eq_true hroom, Bool.and_self, if_pos rfl]

/-- A channel that is full keeps what it has. -/
theorem send_of_full {channel : Channel α} (hfull : channel.capacity ≤ channel.queue.length)
    (message : α) : channel.send message = channel := by
  rw [send, decide_eq_false (Nat.not_lt.mpr hfull), Bool.and_false]
  rfl

theorem send_of_closed {channel : Channel α} (hclosed : channel.isOpen = false) (message : α) :
    channel.send message = channel := by
  rw [send, hclosed, Bool.false_and]
  rfl

@[simp]
theorem capacity_send (channel : Channel α) (message : α) :
    (channel.send message).capacity = channel.capacity := by
  unfold send
  split <;> rfl

/-- Sends messages, one after another. -/
def sendAll (channel : Channel α) (messages : List α) : Channel α := messages.foldl send channel

theorem sendAll_cons (channel : Channel α) (message : α) (messages : List α) :
    channel.sendAll (message :: messages) = (channel.send message).sendAll messages := rfl

/-- What is in an open channel, and then what is sent to it, is kept as far as there is room. -/
theorem sendAll_of_open {channel : Channel α} (hopen : channel.isOpen = true)
    (hbound : channel.queue.length ≤ channel.capacity) (messages : List α) :
    channel.sendAll messages
      = { channel with queue := (channel.queue ++ messages).take channel.capacity } := by
  induction messages generalizing channel with
  | nil =>
    rw [List.append_nil, List.take_of_length_le hbound]
    rfl
  | cons message messages ih =>
    rw [sendAll_cons]
    rcases Nat.lt_or_ge channel.queue.length channel.capacity with hroom | hfull
    · rw [send_of_room hopen hroom]
      refine (ih ?isOpen ?bound).trans ?_
      case isOpen => exact hopen
      case bound =>
        rw [List.length_append]
        exact hroom
      rw [List.append_assoc]
      rfl
    · -- Neither this message nor one behind it finds room.
      rw [send_of_full hfull, ih hopen hbound, List.take_append_of_le_length hfull,
        List.take_append_of_le_length hfull]

theorem sendAll_of_closed {channel : Channel α} (hclosed : channel.isOpen = false)
    (messages : List α) : channel.sendAll messages = channel := by
  induction messages with
  | nil => rfl
  | cons message messages ih => rw [sendAll_cons, send_of_closed hclosed, ih]

/-- Receives all messages; nothing once the channel is closed. -/
def drain (channel : Channel α) : Option (List α) × Channel α :=
  if channel.isOpen then (some channel.queue, { channel with queue := [] }) else (none, channel)

/-- Stops receiving. -/
def close (channel : Channel α) : Channel α := { channel with queue := [], isOpen := false }

end Channel
end ClusterProvision
