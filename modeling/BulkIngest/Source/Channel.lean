import BulkIngest.Source.Pull

/-!
A bounded queue between producers and a run. It ends when it is empty and every sender is gone.
-/

namespace BulkIngest

structure Channel where
  capacity : Nat
  queue : List (Except String Document)
  senders : Nat

namespace Channel

/-- A queue with room for at least one entry, and one sender. -/
def bounded (capacity : Nat) : Channel := ⟨max capacity 1, [], 1⟩

inductive Sent
  | sent
  | full
  | noSender
deriving DecidableEq

/-- Adds an entry if there is room. -/
def send (channel : Channel) (entry : Except String Document) : Sent × Channel :=
  if channel.senders = 0 then (.noSender, channel)
  else if channel.capacity ≤ channel.queue.length then (.full, channel)
  else (.sent, { channel with queue := channel.queue ++ [entry] })

/-- One more sender, made from one that is there. -/
def addSender (channel : Channel) : Channel :=
  if channel.senders = 0 then channel else { channel with senders := channel.senders + 1 }

def dropSender (channel : Channel) : Channel := { channel with senders := channel.senders - 1 }

/-- Takes the oldest entry; `none` while there may be one later. -/
def next (channel : Channel) : Option Pull × Channel :=
  match channel.queue with
  | .ok d :: rest => (some (.document d), { channel with queue := rest })
  | .error reason :: rest => (some (.failed reason), { channel with queue := rest })
  | [] => (if channel.senders = 0 then some .finished else none, channel)

end Channel

end BulkIngest
