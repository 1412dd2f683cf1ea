/-
The write stream.  Requests and responses travel in order, and a stream that closes
loses what is on its way.  The backend answers each request on the stream once.
-/

import InstagramProject.Firestore.MutationQueue

namespace InstagramProject.Firestore

variable {V : Values}

/-- The status codes. -/
inductive Error
  | ok
  | cancelled
  | unknown
  | invalidArgument
  | deadlineExceeded
  | notFound
  | alreadyExists
  | permissionDenied
  | resourceExhausted
  | failedPrecondition
  | aborted
  | outOfRange
  | unimplemented
  | internal
  | unavailable
  | dataLoss
  | unauthenticated
deriving DecidableEq

def isPermanentError : Error → Checked Bool
  | .ok => .error "Treated status OK as error"
  | .cancelled | .unknown | .deadlineExceeded | .resourceExhausted | .internal | .unavailable
  | .unauthenticated => .ok false
  | .invalidArgument | .notFound | .alreadyExists | .permissionDenied | .failedPrecondition
  | .aborted | .outOfRange | .unimplemented | .dataLoss => .ok true

def isPermanentWriteError (error : Error) : Checked Bool := do
  let permanent ← isPermanentError error
  pure (permanent && error ≠ .aborted)

/-- `Stream::State`. -/
inductive StreamState
  | initial
  | starting
  | opened
  | error
  | backoff
deriving DecidableEq

inductive Request (V : Values)
  | handshake
  | mutations (mutations : List (Mutation V))

structure WriteResponse where
  commitVersion : SnapshotVersion
  /-- The versions of the mutation results. -/
  mutationResults : List SnapshotVersion

structure WriteStream (V : Values) where
  state : StreamState
  handshakeComplete : Bool
  /-- The timer that stops an idle stream is set. -/
  idlenessTimer : Bool
  /-- Written to the stream and not yet answered. -/
  requests : List (Request V)
  /-- Answered and not yet read. -/
  responses : List WriteResponse

namespace WriteStream

def unstarted : WriteStream V :=
  { state := .initial
    handshakeComplete := false
    idlenessTimer := false
    requests := []
    responses := [] }

def isOpen (stream : WriteStream V) : Bool := stream.state = .opened

def isStarted (stream : WriteStream V) : Bool :=
  stream.state = .starting || stream.state = .backoff || stream.isOpen

/-- After an error the stream starts behind a backoff delay. -/
def start (stream : WriteStream V) : Checked (WriteStream V) :=
  if stream.state = .error then .ok { stream with state := .backoff }
  else do
    hardAssert (stream.state = .initial) "Already started"
    pure { stream with state := .starting }

def inhibitBackoff (stream : WriteStream V) : Checked (WriteStream V) := do
  hardAssert (!stream.isStarted) "Can only cancel backoff in a stopped state (was %s)"
  pure { stream with state := .initial }

def markIdle (stream : WriteStream V) : WriteStream V :=
  if stream.isOpen then { stream with idlenessTimer := true } else stream

/-- A request cancels the timer. -/
def write (stream : WriteStream V) (request : Request V) : Checked (WriteStream V) := do
  hardAssert stream.isOpen "Cannot write when the stream is not open."
  pure { stream with idlenessTimer := false, requests := stream.requests ++ [request] }

def writeHandshake (stream : WriteStream V) : Checked (WriteStream V) := do
  hardAssert stream.isOpen "Writing handshake requires an opened stream"
  hardAssert (!stream.handshakeComplete) "Handshake already completed"
  stream.write .handshake

def writeMutations (stream : WriteStream V) (mutations : List (Mutation V)) :
    Checked (WriteStream V) := do
  hardAssert stream.isOpen "Writing mutations requires an opened stream"
  hardAssert stream.handshakeComplete "Handshake must be complete before writing mutations"
  stream.write (.mutations mutations)

/-- A write waits until the handshake is complete. -/
def send (stream : WriteStream V) (mutations : List (Mutation V)) : Checked (WriteStream V) :=
  if stream.isOpen && stream.handshakeComplete then stream.writeMutations mutations
  else .ok stream

/-- What `Close` does before it notifies the listener.  The handshake is forgotten
after that only. -/
def closed (stream : WriteStream V) (status : Error) : WriteStream V :=
  { state := if status = .ok then .initial else .error
    handshakeComplete := stream.handshakeComplete
    idlenessTimer := false
    requests := []
    responses := [] }

/-- The writes among the requests on their way. -/
def sentMutations (stream : WriteStream V) : List (List (Mutation V)) :=
  stream.requests.filterMap (fun request =>
    match request with
    | .handshake => none
    | .mutations mutations => some mutations)

end WriteStream

end InstagramProject.Firestore
