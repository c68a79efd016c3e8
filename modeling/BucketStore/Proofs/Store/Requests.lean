import BucketStore.Proofs.Store.Lemmas.Actions
import BucketStore.Service.Connection
import BucketStore.Store.Bucket
import BucketStore.Store.Listing
import BucketStore.Store.Upload

/-!
# Sessions

All that can be asked of a store, and what is seen of a session with it: how the store presents
itself, and of every step the answer or the failure, the calls to the service and the records.
-/

namespace BucketStore

/-- What can be asked of a store. -/
inductive Request where
  | ensureBucket
  | put (key : Value) (content : ByteArray) (option : PutOption)
  | putReader (key : Value) (content : ByteArray) (option : PutOption)
  | fetch (key : Value)
  | delete (key : Value)
  | contains (key : Value)
  | head (key : Value) (option : GetOption)
  | signUrl (key : Value) (option : GetOption)
  | listPaginated (request? : Option PageRequest) (option : GetOption)
  | listAll (pages : Nat) (keyPrefix : Value) (option : GetOption)
  | resourceUrl (uri : Value)
  | uploadHost (host : Value)
  | serverId
  | uploadAuth
  | uploadAuthFor
  | upload

/-- What a store answers. -/
inductive Reply where
  | done
  | content (bytes : ByteArray)
  | found (answer : Bool)
  | file (file : FileInfo)
  | url (url : Value)
  | page (page : Page)
  | files (files? : Option (List FileInfo))
  | text (text : String)

namespace Store

variable {σ : Type}

def perform (s : Store σ) : Request → Action σ Reply
  | .ensureBucket => do s.ensureBucket; return .done
  | .put key content option => do s.put key content option; return .done
  | .putReader key content option => do s.putReader key content option; return .done
  | .fetch key => return .content (← s.fetch key)
  | .delete key => do s.delete key; return .done
  | .contains key => return .found (← s.contains key)
  | .head key option => return .file (← s.head key option)
  | .signUrl key option => return .url (← s.signUrl key option)
  | .listPaginated request? option => return .page (← s.listPaginated request? option)
  | .listAll pages keyPrefix option => return .files (← s.listAll pages keyPrefix option)
  | .resourceUrl uri => return .url (← s.resourceUrl uri)
  | .uploadHost host => return .text (← Action.ofResult (uploadHost host))
  | .serverId => return .text serverId
  | .uploadAuth => do uploadAuth; return .done
  | .uploadAuthFor => do uploadAuthFor; return .done
  | .upload => do upload; return .done

end Store

/-! ## What is seen -/

/-- What is seen of an action: its outcome, its calls and its records. -/
structure Seen (α : Type) where
  outcome : Result α
  calls : List Call
  records : List Log.Record

/-- Runs an action from a state of the service: what is seen of it, and the state after it. -/
def Action.watch {σ α : Type} (action : Action σ α) (state : σ) : Seen α × σ :=
  let (outcome, session) := action.eval { state }
  (⟨outcome, session.calls.toList, session.records.toList⟩, session.state)

/-- How a store presents itself. -/
structure Introduction where
  endpoint : Endpoint
  bucket : String
  credential : String

def Store.introduction {σ : Type} (s : Store σ) : Introduction :=
  ⟨s.endpoint, s.bucket, s.credential.text⟩

/-- How a store comes about: as it is configured, or with its bucket made sure of. -/
inductive Opening where
  | plain
  | ensured

def Opening.store {σ : Type} (service : Service σ) (debug : Bool) (config : BucketConfig) :
    Opening → Action σ (Store σ)
  | .plain => Action.ofResult (Store.make service debug config)
  | .ensured => Store.openWith service debug config

/-- A step of a session: what becomes of the state of the service before it, as by new answers of a
script, and what is asked. -/
structure SessionStep (σ : Type) where
  prepare : σ → σ
  request : Request

/-- What is seen of the steps, one after the other. -/
def Store.replies {σ : Type} (s : Store σ) : σ → List (SessionStep σ) → List (Seen Reply)
  | _, [] => []
  | state, step :: steps =>
    let (seen, state) := (s.perform step.request).watch (step.prepare state)
    seen :: s.replies state steps

/-- What is seen of a session. -/
structure Transcript where
  opening : Seen Introduction
  replies : List (Seen Reply)

/-- A session with the store of a configuration; without a store there are no steps. -/
def Opening.transcript {σ : Type} (opening : Opening) (service : Service σ) (debug : Bool)
    (config : BucketConfig) (state : σ) (steps : List (SessionStep σ)) : Transcript :=
  let (seen, state) := (opening.store service debug config).watch state
  match seen.outcome with
  | .ok s => ⟨⟨.ok s.introduction, seen.calls, seen.records⟩, s.replies state steps⟩
  | .error e => ⟨⟨.error e, seen.calls, seen.records⟩, []⟩

/-- What a client of the service is built from for a configuration, if a store can be made and a
client built. -/
def Store.connection {σ : Type} (service : Service σ) (debug : Bool) (config : BucketConfig) :
    Result Connection := do
  let s ← Store.make service debug config
  (Connection.build service.refusal? config s.endpoint).mapError .storage

end BucketStore
