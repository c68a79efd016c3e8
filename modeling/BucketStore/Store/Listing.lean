import BucketStore.Enrichment
import BucketStore.Store.Object

/-!
# Listings

The objects under a prefix, by pages or all of them. Placeholders of directories are left out, and
tags and URLs are added as the option asks, all or nothing. A full listing goes on from page to page
by the service's own cursor and stops at the configured number of objects.
-/

namespace BucketStore.Store

variable {σ : Type}

/-! ## Pages -/

/-- The objects that a page holds: a list of them, or a single one in place of a list. -/
def pageObjects (contents : Value) : Result (List Value) :=
  if !contents.isTruthy then .ok []
  else
    match contents with
    | .list objects => .ok objects
    | .object fields => .ok [.object fields]
    | .text _ => .error .missingAttribute
    | _ => .error .wrongType

/-- Whether an object stands for a directory: it is empty, and its key ends in a slash. -/
def isDirectoryMarker (key : Value) (size : Int) : Result Bool :=
  if size ≠ 0 then .ok false
  else
    match key with
    | .text s => .ok (s.toList.getLast? == some '/')
    | _ => .error .missingAttribute

/-- What a page tells of an object, unless it stands for a directory. -/
def listedFile (s : Store σ) (object : Value) : Action σ (Option FileInfo) := do
  let .object fields := object | throw .missingAttribute
  let key := (Fields.get? fields "Key").getD (.text "")
  let size ← Action.ofResult (Payload.size (Fields.get fields "Size"))
  if ← Action.ofResult (isDirectoryMarker key size) then
    s.log .debug .listSkipDir [("key", key)]
    return none
  let lastModified ← Action.ofResult (Payload.listedTime (Fields.get fields "LastModified"))
  let etag ← Action.ofResult (Payload.entityTag (Fields.get fields "ETag"))
  return some { key, size := .int size, lastModified, etag := .text etag }

/-- The items in rounds of a given number, the last of which may be shorter. -/
def rounds {α : Type} (width : Nat) (items : List α) : List (List α) :=
  if _h : width = 0 ∨ items.length = 0 then []
  else items.take width :: rounds width (items.drop width)
termination_by items.length
decreasing_by
  simp only [List.length_drop]
  omega

/-- Fetches something for each key of a round. All are fetched, and the first failure in their order
is the failure of the round. -/
def fetchRound {α : Type} (fetch : Value → Action σ α) (keys : List Value) :
    Action σ (List α) := do
  let outcomes ← keys.mapM fun key => Action.outcome (fetch key)
  Action.ofResult (outcomes.mapM id)

/-- Fetches something for each key, in rounds of as many as are fetched at a time; their number must
be positive. -/
def fetchEach {α : Type} (limit : Int) (fetch : Value → Action σ α) (keys : List Value) :
    Action σ (List α) := do
  if limit ≤ 0 then throw TaskGroup.badLimit
  let fetched ← (rounds limit.toNat keys).mapM (fetchRound fetch)
  return fetched.flatten

/-- The files with what the option asks for. A failure that is a storage error is logged. -/
def enrichListed (s : Store σ) (keyPrefix : Value) (files : List FileInfo) (option : GetOption) :
    Action σ (List FileInfo) :=
  let limit := s.config.fanoutConcurrency.val
  tryCatch
    (enrich (fetchEach limit s.tagging)
      (fetchEach limit fun key => s.signUrl key { expire := option.expire }) files option)
    (passOn loggerName .listEnrichFailed [("prefix", keyPrefix)])

/-- The failure of a page size that is not positive. -/
def badPageSize (pageSize : Value) : Failure :=
  .storage (.invalidArgument (.text "page size must be positive")
    (.object [("page_size", pageSize)]))

/-- Whether a page of a size can be asked for. -/
def checkPageSize (pageSize : Value) : Result Unit :=
  match pageSize.isPositive? with
  | some true => .ok ()
  | some false => .error (badPageSize pageSize)
  | none => .error .wrongType

/-- A page of the objects under a prefix. -/
def listPage (s : Store σ) (request : PageRequest) (option : GetOption) : Action σ Page := do
  Action.ofResult (checkPageSize request.pageSize)
  let answer ← during (.list request.keyPrefix)
    (s.call (.listObjects s.bucket request.keyPrefix request.cursor request.pageSize))
  let fields ← Action.ofResult (Payload.answerFields answer.toValue)
  let objects ← Action.ofResult (pageObjects (Fields.get fields "Contents"))
  let listed ← objects.mapM s.listedFile
  let files ← s.enrichListed request.keyPrefix (listed.filterMap id) option
  return {
    files
    cursor := (Fields.get fields "NextMarker").orElse (.text "")
    isTruncated := Payload.flag ((Fields.get? fields "IsTruncated").getD (.bool false)) }

/-- A page of a listing, whose request must be there. -/
def listPaginated (s : Store σ) (request? : Option PageRequest) (option : GetOption) :
    Action σ Page :=
  match request? with
  | some request => s.listPage request option
  | none => throw (.storage (.invalidArgument (.text "input cannot be nil") .null))

/-! ## Full listings -/

/-- The objects under a prefix from a cursor on, after those already listed; none if the listing
does not end within the given number of pages. -/
def listFrom (s : Store σ) (keyPrefix : Value) (option : GetOption) :
    Nat → Value → List FileInfo → Action σ (Option (List FileInfo))
  | 0, _, _ => return none
  | pages + 1, cursor, listed => do
    let page ← s.listPage { pageSize := .int s.config.listPageSize.val, keyPrefix, cursor } option
    let listed := listed ++ page.files
    let most := s.config.listMaxObjects.val
    if most ≤ listed.length then
      s.log .warning .listMaxObjectsReached
        [("total", .int listed.length), ("prefix", keyPrefix)]
      return some (listed.take most.toNat)
    else if page.hasMore then listFrom s keyPrefix option pages page.cursor listed
    else return some listed

/-- The objects under a prefix, but no more than are configured; none if the listing does not end
within the given number of pages. -/
def listAll (s : Store σ) (pages : Nat) (keyPrefix : Value) (option : GetOption) :
    Action σ (Option (List FileInfo)) :=
  s.listFrom keyPrefix option pages (.text "") []

end BucketStore.Store
