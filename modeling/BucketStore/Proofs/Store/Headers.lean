import BucketStore.Proofs.Store.HeadAndListing
import BucketStore.Proofs.Store.Lemmas.Flags

/-!
# Reading headers

Looking at an object takes three of its headers, in whatever order they come and however their names
are written. What other headers say makes no difference.
-/

namespace BucketStore

/-! ## Headers and services -/

/-- The names are the same but for the case of ASCII letters. -/
def SameName (name other : String) : Prop :=
  name.toList.map Char.toLower = other.toList.map Char.toLower

instance (name other : String) : Decidable (SameName name other) :=
  inferInstanceAs (Decidable (_ = _))

theorem SameName.trans {a b c : String} (h : SameName a b) (h' : SameName b c) : SameName a c :=
  Eq.trans h h'

theorem SameName.symm {a b : String} (h : SameName a b) : SameName b a :=
  Eq.symm h

/-- The headers that are read. -/
def readNames : List String :=
  ["Content-Length", "Last-Modified", "ETag"]

/-- Whether the header is one of those that are read. -/
def isRead (header : String × Value) : Bool :=
  readNames.any fun name => decide (SameName header.1 name)

/-- The same headers in some order, each under its name in some letter case. -/
def Rewritten (headers others : Fields) : Prop :=
  ∃ between, headers.Perm between ∧
    List.Forall₂ (fun header other => SameName header.1 other.1 ∧ header.2 = other.2) between others

/-- Headers that say the same: a rewriting of them, if no two have the same name, or headers of
which the same are read. -/
inductive SayTheSame (headers others : Fields) : Prop
  | rewritten : headers.Pairwise (fun header other => ¬ SameName header.1 other.1) →
      Rewritten headers others → SayTheSame headers others
  | unread : headers.filter isRead = others.filter isRead → SayTheSame headers others

/-- The service answers as the other one does, but that it may write the headers of an object in
another way and say more or less in those that are not read. -/
structure Service.AlikeButHeaders {σ : Type} (service other : Service σ) : Prop where
  state : ∀ c state, (other.answer c state).2 = (service.answer c state).2
  answer : ∀ c state, (∀ bucket key, c ≠ .headObject bucket key) →
    (other.answer c state).1 = (service.answer c state).1
  headers : ∀ bucket key state,
    (other.answer (.headObject bucket key) state).1 =
      (service.answer (.headObject bucket key) state).1 ∨
    ∃ headers others, SayTheSame headers others ∧
      (service.answer (.headObject bucket key) state).1 = .ok (.value (.object headers)) ∧
      (other.answer (.headObject bucket key) state).1 = .ok (.value (.object others))

/-! ## Names -/

namespace Payload

theorem lower_eq_lower_iff {read : String} (h : read ∈ readNames) (name : String) :
    Text.lower name = Text.lower read ↔ SameName name read := by
  -- only a k could be the small form of another character than a letter
  have hnames : (readNames.all fun read =>
      (read.toList.map Char.toLower).all fun c => Endpoint.isHostChar c && c != 'k') = true := rfl
  have hchars := List.all_eq_true.mp (List.all_eq_true.mp hnames read h)
  have hhost : ∀ c ∈ read.toList.map Char.toLower, Endpoint.isHostChar c = true := fun c hc =>
    (Bool.and_eq_true_iff.mp (hchars c hc)).1
  have hk : 'k' ∉ read.toList.map Char.toLower := fun hmem =>
    bne_iff_ne.mp (Bool.and_eq_true_iff.mp (hchars 'k' hmem)).2 rfl
  have hread : Text.lower read = .ofList (read.toList.map Char.toLower) :=
    (Text.lower_eq_iff hhost hk read).mpr rfl
  rw [hread, Text.lower_eq_iff hhost hk]
  rfl

/-- The headers of a name in whatever letter case. -/
def headersNamed (headers : Fields) (name : String) : Fields :=
  headers.filter fun header => decide (SameName header.1 name)

theorem header_eq {name : String} (h : name ∈ readNames) (headers : Fields) :
    header headers name =
      ((headersNamed headers name).head?.map Prod.snd).elim (.text "")
        fun v => v.orElse (.text "") := by
  have hfind : (fun field : String × Value => Text.lower field.1 == Text.lower name) =
      fun field => decide (SameName field.1 name) := by
    funext field
    rw [Bool.eq_iff_iff, beq_iff_eq, decide_eq_true_iff]
    exact lower_eq_lower_iff h field.1
  rw [header, hfind, headersNamed, List.head?_filter]
  cases headers.find? fun field => decide (SameName field.1 name) with
  | none => rfl
  | some field => rfl

/-! ## Headers that say the same -/

theorem headersNamed_eq_of_perm {headers others : Fields}
    (hdistinct : headers.Pairwise fun header other => ¬ SameName header.1 other.1)
    (hperm : headers.Perm others) (name : String) :
    headersNamed headers name = headersNamed others name := by
  have hvalues : (headersNamed headers name).Perm (headersNamed others name) := hperm.filter _
  have hsub : (headersNamed headers name).Pairwise
      fun header other => ¬ SameName header.1 other.1 :=
    hdistinct.filter _
  have hname : ∀ header ∈ headersNamed headers name, SameName header.1 name := fun header hmem =>
    of_decide_eq_true (List.mem_filter.mp hmem).2
  -- at most one header has the name
  match hcases : headersNamed headers name with
  | [] =>
    rw [hcases] at hvalues
    exact (List.nil_perm.mp hvalues).symm
  | [header] =>
    rw [hcases] at hvalues
    exact List.singleton_perm.mp hvalues
  | header :: other :: rest =>
    rw [hcases] at hsub hname
    refine absurd ?_ (List.rel_of_pairwise_cons hsub List.mem_cons_self)
    exact (hname header List.mem_cons_self).trans
      (hname other (List.mem_cons_of_mem _ List.mem_cons_self)).symm

theorem map_snd_headersNamed {headers others : Fields}
    (h : List.Forall₂ (fun header other => SameName header.1 other.1 ∧ header.2 = other.2)
      headers others) (name : String) :
    (headersNamed headers name).map Prod.snd = (headersNamed others name).map Prod.snd := by
  induction h with
  | nil => rfl
  | @cons header other headers others hsame _ ih =>
    obtain ⟨hname, hvalue⟩ := hsame
    have hiff : SameName header.1 name ↔ SameName other.1 name :=
      ⟨hname.symm.trans, hname.trans⟩
    by_cases hread : SameName header.1 name
    · have hother := hiff.mp hread
      simp only [headersNamed, List.filter_cons, hread, hother, decide_true, if_true, List.map_cons,
        hvalue] at ih ⊢
      rw [ih]
    · have hother := mt hiff.mpr hread
      simp only [headersNamed, List.filter_cons, hread, hother, decide_false] at ih ⊢
      exact ih

theorem headersNamed_filter_isRead {name : String} (h : name ∈ readNames) (headers : Fields) :
    headersNamed (headers.filter isRead) name = headersNamed headers name := by
  rw [headersNamed, headersNamed, List.filter_filter]
  refine List.filter_congr fun header _ => ?_
  rw [Bool.and_eq_left_iff_imp]
  exact fun hname => List.any_eq_true.mpr ⟨name, h, hname⟩

theorem header_of_sayTheSame {headers others : Fields} (h : SayTheSame headers others)
    {name : String} (hname : name ∈ readNames) : header headers name = header others name := by
  rw [header_eq hname, header_eq hname]
  cases h with
  | rewritten hdistinct hrewritten =>
    obtain ⟨between, hperm, hrecased⟩ := hrewritten
    rw [headersNamed_eq_of_perm hdistinct hperm, ← List.head?_map, ← List.head?_map,
      map_snd_headersNamed hrecased]
  | unread hread =>
    rw [← headersNamed_filter_isRead hname headers, hread, headersNamed_filter_isRead hname]

end Payload

/-! ## Looking at an object -/

namespace Store

open BucketStore.Action

variable {σ : Type} {s : Store σ} {other : Service σ}

theorem ofHeaders_object (key : Value) (headers : Fields) :
    ofHeaders key (.object headers) = (do
      let size ← Payload.size (Payload.header headers "Content-Length")
      let lastModified ← Payload.headerTime (Payload.header headers "Last-Modified")
      let etag ← Payload.entityTag (Payload.header headers "ETag")
      return { key, size := .int size, lastModified, etag := .text etag }) := by
  cases headers <;> rfl

theorem ofHeaders_of_sayTheSame {headers others : Fields} (h : SayTheSame headers others)
    (key : Value) : ofHeaders key (.object headers) = ofHeaders key (.object others) := by
  have hheader : ∀ name ∈ readNames, Payload.header headers name = Payload.header others name :=
    fun _ => Payload.header_of_sayTheSame h
  rw [ofHeaders_object, ofHeaders_object, hheader "Content-Length" (by decide),
    hheader "Last-Modified" (by decide), hheader "ETag" (by decide)]

section alike

variable (h : s.service.AlikeButHeaders other)
include h

theorem call_of_alikeButHeaders {c : Call} (hc : ∀ bucket key, c ≠ .headObject bucket key) :
    { s with service := other }.call c = s.call c := by
  have hanswer : other.answer c = s.service.answer c := by
    funext state
    exact Prod.ext (h.answer c state hc) (h.state c state)
  rw [call, call, Action.call, Action.call, hanswer]

theorem extras_of_alikeButHeaders (key : Value) (option : GetOption) :
    { s with service := other }.extras key option = s.extras key option := by
  have hask : { s with service := other }.call (.getObjectTagging s.bucket key) =
      s.call (.getObjectTagging s.bucket key) :=
    call_of_alikeButHeaders h fun _ _ heq => nomatch heq
  have hsign : ∀ expires, { s with service := other }.call (.signUrl s.bucket key "GET" expires) =
      s.call (.signUrl s.bucket key "GET" expires) := fun _ =>
    call_of_alikeButHeaders h fun _ _ heq => nomatch heq
  have htagging : { s with service := other }.tagging key = s.tagging key := by
    rw [tagging, tagging, ← hask]
    rfl
  have hsignUrl : { s with service := other }.signUrl key option = s.signUrl key option := by
    simp only [signUrl, ← hsign]
    rfl
  rw [extras, extras, htagging, hsignUrl]

/-- Headers that say the same come, or the same answer. -/
theorem eval_headers_of_alikeButHeaders (key : Value) (session : Session σ) :
    ({ s with service := other }.headers key).eval session = (s.headers key).eval session ∨
    ∃ headers others later, SayTheSame headers others ∧
      (s.headers key).eval session = (.ok (.object headers), later) ∧
      ({ s with service := other }.headers key).eval session = (.ok (.object others), later) := by
  have hstate := h.state (.headObject s.bucket key) session.state
  rcases h.headers s.bucket key session.state with hsame | ⟨headers, others, hsay, hown, hother⟩
  · left
    rw [Store.headers, Store.headers, eval_bind, eval_bind, eval_tryCatch, eval_tryCatch, call,
      call, eval_call, eval_call]
    simp only [bucket] at hsame hstate ⊢
    rw [hsame, hstate]
  · refine .inr ⟨headers, others, _, hsay, s.eval_headers_ok hown, ?_⟩
    have hcalled : session.called other (.headObject s.bucket key) =
        session.called s.service (.headObject s.bucket key) := by
      rw [Session.called, hstate]
      rfl
    rw [← hcalled]
    exact { s with service := other }.eval_headers_ok hother

/-- However the headers of an object are ordered and their names written, and whatever else they
say, it is found as the same file, with the same calls and records. -/
theorem eval_head_of_alikeButHeaders (key : Value) (option : GetOption) (session : Session σ) :
    ({ s with service := other }.head key option).eval session =
      (s.head key option).eval session := by
  rw [head_eq, head_eq, extras_of_alikeButHeaders h]
  rcases eval_headers_of_alikeButHeaders h key session with
    hsame | ⟨headers, others, later, hsay, hown, hother⟩
  · rw [eval_bind, eval_bind, hsame]
  · rw [eval_bind_ok hown, eval_bind_ok hother]
    simp only [ofHeaders_of_sayTheSame hsay]

end alike

/-- A service that knows the headers of objects and nothing else. -/
def headed (headers : Fields) : Service Unit where
  client
    | .headObject _ _, state => (.ok (.value (.object headers)), state)
    | _, state => (.ok (.value .null), state)

theorem headed_alikeButHeaders {headers others : Fields} (h : SayTheSame headers others) :
    (headed headers).AlikeButHeaders (headed others) where
  state c _ := by cases c <;> rfl
  answer c _ hc := by
    cases c with
    | headObject bucket key => exact absurd rfl (hc bucket key)
    | _ => rfl
  headers _ _ _ := .inr ⟨headers, others, h, rfl, rfl⟩

def headedStore (headers : Fields) : Store Unit where
  config := default
  endpoint := default
  service := headed headers
  debug := false

def plainHeaders : Fields :=
  [("Content-Length", .text "12"), ("ETag", .text "\"a1\"")]

/-- The same in another order, with names in another case. -/
def recasedHeaders : Fields :=
  [("etag", .text "\"a1\""), ("CONTENT-length", .text "12")]

/-- The same with one more that is not read. -/
def typedHeaders : Fields :=
  ("Content-Type", .text "text/plain") :: plainHeaders

theorem eval_head_of_alikeButHeaders_recased :
    SayTheSame plainHeaders recasedHeaders ∧ SayTheSame plainHeaders typedHeaders ∧
    (((headedStore plainHeaders).head (.text "a") {}).eval { state := () }).1 =
      .ok { key := .text "a", size := .int 12, etag := .text "a1" } ∧
    ((headedStore recasedHeaders).head (.text "a") {}).eval { state := () } =
      ((headedStore plainHeaders).head (.text "a") {}).eval { state := () } ∧
    ((headedStore typedHeaders).head (.text "a") {}).eval { state := () } =
      ((headedStore plainHeaders).head (.text "a") {}).eval { state := () } := by
  have hrecased : SayTheSame plainHeaders recasedHeaders :=
    .rewritten (by decide) ⟨_, .swap _ _ _, .cons ⟨by decide, rfl⟩ (.cons ⟨by decide, rfl⟩ .nil)⟩
  have htyped : SayTheSame plainHeaders typedHeaders := .unread rfl
  refine ⟨hrecased, htyped, rfl, ?_, ?_⟩
  · exact @eval_head_of_alikeButHeaders _ (headedStore plainHeaders) _
      (headed_alikeButHeaders hrecased) (.text "a") {} { state := () }
  · exact @eval_head_of_alikeButHeaders _ (headedStore plainHeaders) _
      (headed_alikeButHeaders htyped) (.text "a") {} { state := () }

end Store

end BucketStore
