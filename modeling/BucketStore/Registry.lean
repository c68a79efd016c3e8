import BucketStore.Config.Settings
import BucketStore.Service.Connection
import BucketStore.Store.Bucket

/-!
# The registry of adapters

Adapters make stores. They are registered by name: the names stand in the order in which they were
first registered, and a name stands for what was registered for it last. A name is any value that
may be a key, and names that are the same key are one name. Without a name the store of the global
settings is meant.
-/

namespace BucketStore

/-- Values by name, in the order of first registration. -/
abbrev Registry (α : Type) := List (Value × α)

namespace Registry

variable {α : Type}

/-- Registers a value under a name, in its place if the name is known and at the end otherwise. -/
def register (name : Value) (a : α) : Registry α → Registry α
  | [] => [(name, a)]
  | entry :: entries =>
    if entry.1.sameKey name then (entry.1, a) :: entries else entry :: register name a entries

def names (r : Registry α) : List Value :=
  r.map fun entry => entry.1

/-- What was registered for a name last. -/
def get? (r : Registry α) (name : Value) : Option α :=
  (r.find? fun entry => entry.1.sameKey name).map fun entry => entry.2

end Registry

/-- What is known of a store that an adapter has made. -/
structure Opened where
  adapter : Value
  bucket : Value
  bucketUrl : Value
deriving Inhabited

/-- What makes stores: its own label, and how it makes one from a configuration, if it is given
one. -/
structure Adapter (σ : Type) where
  label : Value
  make : Option BucketConfig → Action σ Opened

/-- The registered adapters; a name may be registered without one. -/
abbrev Adapters (σ : Type) := Registry (Option (Adapter σ))

namespace Adapter

variable {σ : Type}

def loggerName : String := "objstore.core.storage.factory"

/-- The configuration of the bucket in settings, as the outcome of a computation. -/
def configOf (settings : Fields) : Result BucketConfig :=
  (BucketConfig.ofSettings settings).mapError .badFields

/-- The adapter of the remote service: a configuration that is not given is that of the settings,
and a store is opened once a client can be built. -/
def remote (service : Service σ) (settings : Fields) (debug : Bool) : Adapter σ where
  label := .text Store.backendName
  make config? := do
    let config ←
      match config? with
      | some config => pure config
      | none => Action.ofResult (configOf settings)
    let s ← Action.ofResult (Store.make service debug config)
    let _ ← Action.ofResult ((Connection.build service.refusal? config s.endpoint).mapError .storage)
    s.ensureBucket
    return ⟨.text Store.backendName, .text s.bucket, .text s.endpoint.bucketUrl⟩

/-- An adapter that fails, or makes a store that only holds its configuration. -/
def stub (label : Value) (failure? : Option Failure) : Adapter σ where
  label
  make config? :=
    match failure? with
    | some e => throw e
    | none => return ⟨label, config?.elim .null fun config => .text config.bucket, .null⟩

end Adapter

namespace Adapters

variable {σ : Type}

/-- A name as it is listed among others: only texts can be. -/
def listedName : Value → Result String
  | .text s => .ok s
  | _ => .error .wrongType

/-- The failure of a name without an adapter, which lists the names that there are. -/
def missing (adapters : Adapters σ) (name : Value) : Failure :=
  let message := do
    let names ← adapters.names.mapM listedName
    return "存储适配器 '" ++ (← name.write) ++ "' 不存在，可用适配器: " ++ ", ".intercalate names
  match message with
  | .ok message => .storage (.configuration (.text message) .null)
  | .error e => e

def checkName (name : Value) : Result Unit :=
  if name.isKey then .ok () else .error .wrongType

def registered (name : Value) : Log.Record :=
  Log.record .info Adapter.loggerName .adapterRegistered [("adapter", name)] none

/-- Registers an adapter, or none, under a name. -/
def register (name : Value) (adapter? : Option (Adapter σ)) (adapters : Adapters σ) :
    Action σ (Adapters σ) := do
  Action.ofResult (checkName name)
  Action.log (registered name)
  return Registry.register name adapter? adapters

def find (adapters : Adapters σ) (name : Value) : Result (Adapter σ) := do
  checkName name
  match adapters.get? name with
  | some (some adapter) => return adapter
  | _ => throw (adapters.missing name)

/-- A store made by the adapter of a name. A failure that is a storage error is logged. -/
def create (adapters : Adapters σ) (name : Value) (config? : Option BucketConfig) :
    Action σ Opened := do
  let adapter ← Action.ofResult (adapters.find name)
  tryCatch (adapter.make config?)
    (Store.passOn Adapter.loggerName .adapterCreateFailed [("adapter", name)])

/-- The failure of settings that configure no store. -/
def unconfigured : Failure :=
  .storage (.configuration (.text "没有可用的存储服务。请配置腾讯云COS存储") .null)

/-- The store of a named adapter; without a name, the one that the settings configure. -/
def storage (adapters : Adapters σ) (settings : Fields) (name : Value) : Action σ Opened := do
  match name with
  | .null =>
    let config ← Action.ofResult (Adapter.configOf settings)
    if config.isComplete then adapters.create (.text Store.backendName) none
    else throw unconfigured
  | name => adapters.create name none

end Adapters

end BucketStore
