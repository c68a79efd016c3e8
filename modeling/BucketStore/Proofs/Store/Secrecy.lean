import BucketStore.Proofs.Store.Requests

/-!
# The secret key

Nothing that is seen of a session depends on the secret key: neither how the store presents itself
nor an answer, a failure, a call or a record. Only the client of the service is built from it.
-/

namespace BucketStore

def BucketConfig.withKey (config : BucketConfig) (key : String) : BucketConfig :=
  { config with secretKey := key }

namespace Store

variable {σ : Type}

def withKey (s : Store σ) (key : String) : Store σ :=
  { s with config := s.config.withKey key }

variable (s : Store σ) (key : String)

/-! ## Operations -/

theorem ensureBucket_withKey : (s.withKey key).ensureBucket = s.ensureBucket :=
  rfl

theorem listPage_withKey (request : PageRequest) (option : GetOption) :
    (s.withKey key).listPage request option = s.listPage request option :=
  rfl

/-- A full listing, page by page. -/
theorem listFrom_withKey (keyPrefix : Value) (option : GetOption) (pages : Nat) (cursor : Value)
    (listed : List FileInfo) :
    (s.withKey key).listFrom keyPrefix option pages cursor listed =
      s.listFrom keyPrefix option pages cursor listed := by
  induction pages generalizing cursor listed with
  | zero => rfl
  | succ pages ih =>
      rw [listFrom, listFrom, listPage_withKey]
      simp only [ih]
      rfl

/-- Whatever a store is asked for, it does the same with another secret key. -/
theorem perform_withKey (r : Request) : (s.withKey key).perform r = s.perform r := by
  cases r with
  | listAll pages keyPrefix option =>
      rw [perform, perform, listAll, listAll, listFrom_withKey]
  | listPaginated request? option => rfl
  | ensureBucket => rfl
  | put | putReader | fetch | delete | contains | head | signUrl => rfl
  | resourceUrl | uploadHost | serverId | uploadAuth | uploadAuthFor | upload => rfl

theorem introduction_withKey : (s.withKey key).introduction = s.introduction :=
  rfl

/-! ## Sessions -/

theorem replies_withKey (state : σ) (steps : List (SessionStep σ)) :
    (s.withKey key).replies state steps = s.replies state steps := by
  induction steps generalizing state with
  | nil => rfl
  | cons step steps ih =>
      rw [replies, replies, perform_withKey]
      simp only [ih]

end Store

section

variable {σ : Type} (service : Service σ) (debug : Bool) (config : BucketConfig) (key : String)

theorem Store.make_withKey :
    Store.make service debug (config.withKey key) =
      (Store.make service debug config).map fun s => s.withKey key := by
  simp only [Store.make, BucketConfig.withKey]
  cases Endpoint.resolve config.bucket config.endpoint config.region <;> rfl

/-- With another key the store comes about alike. -/
theorem Opening.eval_store_withKey (opening : Opening) (session : Session σ) :
    (opening.store service debug (config.withKey key)).eval session =
      (((opening.store service debug config).eval session).1.map fun s => s.withKey key,
        ((opening.store service debug config).eval session).2) := by
  cases opening with
  | plain =>
      rw [store, store, Action.eval_ofResult, Action.eval_ofResult, Store.make_withKey]
  | ensured =>
      rw [store, store, Store.openWith, Store.openWith, Store.make_withKey]
      cases Store.make service debug config with
      | error e => rfl
      | ok s =>
          rw [Except.map, Action.eval_bind, Action.eval_bind, Action.eval_ofResult,
            Action.eval_ofResult]
          simp only [Store.ensureBucket_withKey, Action.eval_bind]
          cases (s.ensureBucket).eval session with
          | mk r later => cases r <;> rfl

theorem Opening.transcript_withKey (opening : Opening) (state : σ)
    (steps : List (SessionStep σ)) :
    opening.transcript service debug (config.withKey key) state steps =
      opening.transcript service debug config state steps := by
  simp only [transcript, Action.watch, eval_store_withKey]
  cases ((opening.store service debug config).eval { state }).1 with
  | error e => rfl
  | ok s => simp only [Except.map, Store.introduction_withKey, Store.replies_withKey]

/-! ## Clients of the service -/

/-- These are secret keys to the client of a service: whether it refuses a connection, and with which
text, does not depend on which of them the connection has. -/
structure Service.TakesKeys {σ : Type} (service : Service σ) (isKey : String → Prop) : Prop where
  refusal? : ∀ (c : Connection) (key : String), isKey c.secretKey → isKey key →
    service.refusal? { c with secretKey := key } = service.refusal? c

/-- What the usual client takes for a secret key: a text that is not empty and has no space at
either end. -/
def Connection.IsKey (key : String) : Prop :=
  key ≠ "" ∧ key.toList.head? ≠ some ' ' ∧ key.toList.getLast? ≠ some ' '

instance (key : String) : Decidable (Connection.IsKey key) :=
  inferInstanceAs (Decidable (_ ∧ _ ∧ _))

theorem Connection.IsKey.isEmpty {key : String} (h : IsKey key) : key.isEmpty = false := by
  rw [Bool.eq_false_iff]
  exact fun hempty => h.1 (String.isEmpty_iff.mp hempty)

theorem Connection.IsKey.isSpaced {key : String} (h : IsKey key) : isSpaced key = false := by
  simp only [Connection.isSpaced, Bool.or_eq_false_iff, beq_eq_false_iff_ne]
  exact h.2

theorem Service.takesKeys_of_usual {service : Service σ}
    (h : service.refusal? = Connection.usualRefusal?) : service.TakesKeys Connection.IsKey where
  refusal? c key hc hkey := by
    rw [h]
    simp only [Connection.usualRefusal?, hc.isEmpty, hkey.isEmpty, hc.isSpaced, hkey.isSpaced]

variable {service} {isKey : String → Prop} (htakes : service.TakesKeys isKey)
  (h : isKey config.secretKey) (hkey : isKey key)
include htakes h hkey

/-- Apart from the key itself, a client is built alike, or is not for the same reason. -/
theorem Connection.build_withKey (endpoint : Endpoint) :
    build service.refusal? (config.withKey key) endpoint =
      (build service.refusal? config endpoint).map fun c => { c with secretKey := key } := by
  have hrefusal : service.refusal? (ofConfig (config.withKey key) endpoint) =
      service.refusal? (ofConfig config endpoint) :=
    htakes.refusal? (ofConfig config endpoint) key h hkey
  simp only [build, hrefusal]
  cases service.refusal? (ofConfig config endpoint) <;> rfl

theorem Store.connection_withKey :
    connection service debug (config.withKey key) =
      (connection service debug config).map fun c => { c with secretKey := key } := by
  rw [connection, connection, make_withKey]
  cases make service debug config with
  | error e => rfl
  | ok s =>
      change (Connection.build _ (config.withKey key) s.endpoint).mapError _ =
        ((Connection.build _ config s.endpoint).mapError _).map _
      rw [Connection.build_withKey config key htakes h hkey]
      cases Connection.build service.refusal? config s.endpoint <;> rfl

/-- The secret key never shows. A session with another one is the same in all that is seen of it:
the store's own presentation, the answers, the failures with their details, the calls and the
records. Of what a client of the service is built from, only the key differs, where both are keys to
that client. -/
theorem session_hides_key :
    (∀ (opening : Opening) (state : σ) (steps : List (SessionStep σ)),
      opening.transcript service debug (config.withKey key) state steps =
        opening.transcript service debug config state steps) ∧
    Store.connection service debug (config.withKey key) =
      (Store.connection service debug config).map fun c => { c with secretKey := key } :=
  ⟨fun opening state steps => opening.transcript_withKey service debug config key state steps,
    Store.connection_withKey debug config key htakes h hkey⟩

end

/-- A service that is always out of order, with the usual client. -/
def outOfOrder : Service Unit where
  client := fun c state => (.error (.fault .connection [.text c.method]), state)
  refusal? := Connection.usualRefusal?

def photos : BucketConfig :=
  { (default : BucketConfig) with
    secretId := "id", secretKey := "first key", bucket := "photos-125", region := "ap-beijing" }

theorem session_hides_key_of_photos :
    Opening.ensured.transcript outOfOrder true (photos.withKey "second key") () [] =
        Opening.ensured.transcript outOfOrder true photos () [] ∧
      Opening.plain.transcript outOfOrder true (photos.withKey "second key") ()
          [⟨id, .fetch (.text "a")⟩] =
        Opening.plain.transcript outOfOrder true photos () [⟨id, .fetch (.text "a")⟩] ∧
      Store.connection outOfOrder true (photos.withKey "second key") = .ok {
        region? := some "ap-beijing", scheme := "https", timeout := photos.timeout
        domain := "photos-125.cos.ap-beijing.myqcloud.com"
        serviceDomain := "cos.ap-beijing.myqcloud.com"
        secretId := "id", secretKey := "second key" } := by
  have hfirst : Store.connection outOfOrder true photos = .ok {
      region? := some "ap-beijing", scheme := "https", timeout := photos.timeout
      domain := "photos-125.cos.ap-beijing.myqcloud.com"
      serviceDomain := "cos.ap-beijing.myqcloud.com"
      secretId := "id", secretKey := "first key" } := by
    rfl
  have htakes : outOfOrder.TakesKeys Connection.IsKey := Service.takesKeys_of_usual rfl
  obtain ⟨hsessions, hconnection⟩ :=
    session_hides_key true photos "second key" htakes (by decide) (by decide)
  refine ⟨hsessions .ensured () [], hsessions .plain () _, ?_⟩
  rw [hconnection, hfirst]
  rfl

end BucketStore
