import Barrage.Terminal.Sequence

/-!
# Input

What a terminal sends is read in blocks of limited length, and every block is
divided into sequences.  A sequence may begin in one block and end in a later
one.

Blocks are read up to one that tells something.  What is left then stays
unread until more is sent.
-/

namespace Barrage.Terminal

/-- The input between two times that something is sent. -/
structure Input where
  /-- The bytes of an unfinished sequence, each as the character with its code. -/
  pending : List Char := []
  /-- What has been sent and not been read. -/
  unread : List UInt8 := []
deriving DecidableEq, Repr

/-- The input after something was sent, with what it tells. -/
structure Received where
  input : Input
  signals : List Signal
deriving DecidableEq, Repr

namespace Input

/-- The length of a full block. -/
def blockLength : Nat := 1024

/--
Divide a block into sequences, the first of which has the pending bytes
before it.  The answer is what is pending after the block, and what the block
tells.  More may follow a full block, so that an escape character at its end
is not yet the escape key.
-/
def divide
    (full : Bool)
    (pending : List Char) : List UInt8 → List Char × List Signal
  | [] => (pending, [])
  | byte :: rest =>
      let sequence := pending ++ [Char.ofUInt8 byte]
      match Reading.ofSequence (rest.isEmpty && !full) sequence with
      | .unfinished => divide full sequence rest
      | .meaningless => divide full [] rest
      | .complete signal =>
          let (left, signals) := divide full [] rest
          (left, signal :: signals)

/-- Read blocks up to one that tells something. -/
def read (pending : List Char) : List UInt8 → Received
  | [] => ⟨⟨pending, []⟩, []⟩
  | byte :: rest =>
      let block := (byte :: rest).take blockLength
      let (left, signals) := divide (block.length = blockLength) pending block
      if signals.isEmpty then read left ((byte :: rest).drop blockLength)
      else ⟨⟨left, (byte :: rest).drop blockLength⟩, signals⟩
termination_by unread => unread.length
decreasing_by
  simp only [List.length_drop, List.length_cons, blockLength]
  omega

/-- Read what is sent.  Where nothing is sent, nothing is read. -/
def receive
    (input : Input)
    (sent : List UInt8) : Received :=
  if sent.isEmpty then ⟨input, []⟩ else read input.pending (input.unread ++ sent)

@[simp]
theorem receive_nil (input : Input) : input.receive [] = ⟨input, []⟩ := rfl

end Input

end Barrage.Terminal
