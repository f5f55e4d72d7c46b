import WebClip.Proofs.Numerals
import WebClip.Proofs.Appending
import WebClip.Proofs.Sweeping
import WebClip.Proofs.Uploading
/-!
# What guards downloads

A download is refused by its status, by the length it declares, by its media type or by the size of its body. None
of this depends on how the body is divided into chunks: what counts is the whole of it. So nothing is moved into an
upload that is too large or no image.
-/

namespace WebClip

open Act

namespace Download

open Text

/-! ## Bodies -/

/-- The bytes in chunks behind those that have come already. -/
def joined (content : ByteArray) (parts : List ByteArray) : ByteArray := parts.foldl (· ++ ·) content

theorem size_le_joined (content : ByteArray) (parts : List ByteArray) : content.size ≤ (joined content parts).size := by
  induction parts generalizing content with
  | nil => exact Nat.le_refl _
  | cons part rest ih =>
    calc content.size ≤ (content ++ part).size := by rw [ByteArray.size_append]; exact Nat.le_add_right _ _
      _ ≤ (joined (content ++ part) rest).size := ih _

/-- Empty chunks add nothing. -/
theorem joined_filter (content : ByteArray) (parts : List ByteArray) :
    joined content (parts.filter fun part => !part.isEmpty) = joined content parts := by
  induction parts generalizing content with
  | nil => rfl
  | cons part rest ih =>
    cases hempty : part.isEmpty with
    | true =>
      have hnone : part = ByteArray.empty := ByteArray.size_eq_zero_iff.1 (by simpa [ByteArray.isEmpty] using hempty)
      rw [List.filter_cons, if_neg (by simp [hempty]), ih, hnone, joined, joined, List.foldl_cons,
        ByteArray.append_empty]
    | false =>
      rw [List.filter_cons, if_pos (by simp [hempty])]
      exact ih _

/-- Chunks are put together if all of them are within the limit, where there are any. -/
theorem gather_int (url : String) (n : Int) (content : ByteArray) (parts : List ByteArray) :
    gather url (.int n) content parts =
      if parts = [] ∨ ((joined content parts).size : Int) ≤ n then .ok (joined content parts)
      else .error (tooLarge url (.int n)) := by
  induction parts generalizing content with
  | nil => rw [if_pos (.inl rfl), gather, joined, List.foldl_nil]
  | cons part rest ih =>
    have hsize : (content ++ part).size = content.size + part.size := ByteArray.size_append
    have hle := size_le_joined (content ++ part) rest
    have hjoined : joined content (part :: rest) = joined (content ++ part) rest := rfl
    rw [gather, hjoined]
    by_cases hlarge : n < ((content.size + part.size : Nat) : Int)
    · -- the size only grows, so what a chunk is refused for the whole is refused for
      have hrefused : ¬ (part :: rest = [] ∨ ((joined (content ++ part) rest).size : Int) ≤ n) := by
        simp only [List.cons_ne_nil, false_or]
        omega
      rw [exceeds, decide_eq_true hlarge, if_neg hrefused]
    · rw [exceeds, decide_eq_false hlarge]
      dsimp only
      rw [ih]
      cases rest with
      | nil =>
        have hfits : ((content ++ part).size : Int) ≤ n := by omega
        rw [if_pos (.inl rfl), if_pos (.inr hfits)]
      | cons next rest => simp only [List.cons_ne_nil, false_or]

/-- The body of a reply is taken as a whole: it is within the limit, or there is none. -/
theorem gather_received (url : String) (n : Int) (r : HttpReply) :
    gather url (.int n) ByteArray.empty (received r) =
      if r.body.size = 0 ∨ (r.body.size : Int) ≤ n then .ok r.body else .error (tooLarge url (.int n)) := by
  have hbody : joined ByteArray.empty (received r) = r.body := joined_filter _ _
  have hnone : received r = [] ↔ r.body.size = 0 := by
    rw [← hbody]
    cases hparts : received r with
    | nil => exact iff_of_true rfl rfl
    | cons part rest =>
      -- no chunk that is received is empty
      have hpart : part ∈ received r := hparts ▸ List.mem_cons_self
      have hsome : part.size ≠ 0 := by simpa [ByteArray.isEmpty] using List.of_mem_filter hpart
      have hle := size_le_joined (ByteArray.empty ++ part) rest
      have hjoined : joined ByteArray.empty (part :: rest) = joined (ByteArray.empty ++ part) rest := rfl
      rw [ByteArray.empty_append] at hle hjoined
      rw [hjoined]
      exact iff_of_false (List.cons_ne_nil part rest) (by omega)
  rw [gather_int, hbody]
  simp only [hnone]

/-! ## Declared lengths -/

/-- A reply that declares no length, or one of no more than twenty characters in ASCII. -/
def Brief (r : HttpReply) : Prop :=
  ∀ text, r.header? "content-length" = some text → text.toList.length ≤ 20 ∧ ∀ c ∈ text.toList, c.toNat < 128

theorem isDigitLike_ascii {c : Char} (h : c.toNat < 128) : isDigitLike c = c.isDigit := by
  have hall : ∀ n < 128, isDigitLike (Char.ofNat n) = (Char.ofNat n).isDigit := by decide +kernel
  rw [← Char.ofNat_toNat c]
  exact hall c.toNat h

/-- What is declared is within the limit, if it is a number. -/
def Declares (n : Int) (r : HttpReply) : Prop :=
  ∀ text, r.header? "content-length" = some text → Number.Digits text.toList →
    (Number.digitsValue text.toList : Int) ≤ n

theorem digits_iff {text : String} (h : ∀ c ∈ text.toList, c.toNat < 128) :
    (!text.isEmpty && text.toList.all isDigitLike) = true ↔ Number.Digits text.toList := by
  have hall : text.toList.all isDigitLike = true ↔ ∀ c ∈ text.toList, c.isDigit = true := by
    rw [List.all_eq_true]
    exact forall₂_congr fun c hc => by rw [isDigitLike_ascii (h c hc)]
  have hempty : (!text.isEmpty) = true ↔ text.toList ≠ [] := by simp
  rw [Bool.and_eq_true, hall, hempty]
  exact ⟨fun ⟨hne, hdigit⟩ => ⟨hne, hdigit⟩, fun hdigits => ⟨hdigits.ne_nil, hdigits.isDigit⟩⟩

/-- A reply is refused for the length that it declares exactly if that is beyond the limit. -/
theorem checkLength_int {r : HttpReply} (hbrief : Brief r) (url : String) (n : Int) :
    (Declares n r ∧ checkLength url (.int n) r = .ok ()) ∨
      ¬ Declares n r ∧ ∃ e, checkLength url (.int n) r = .error e := by
  unfold checkLength declared?
  cases hheader : r.header? "content-length" with
  | none =>
    refine .inl ⟨fun text htext => ?_, rfl⟩
    rw [hheader] at htext
    cases htext
  | some text =>
    obtain ⟨hlength, hascii⟩ := hbrief text hheader
    have hdeclares : Declares n r ↔ (Number.Digits text.toList → (Number.digitsValue text.toList : Int) ≤ n) :=
      ⟨fun h => h text hheader, fun h other hother => by rw [hheader] at hother; cases hother; exact h⟩
    rw [Option.filter_some]
    by_cases hdigits : Number.Digits text.toList
    · -- so few digits are always read
      have hread : Number.readInt text.toList = .ok (Number.digitsValue text.toList : Int) := by
        simpa [Number.signText] using Number.readInt_digits hdigits (Nat.le_trans hlength (by decide)) false
      rw [if_pos ((digits_iff hascii).2 hdigits)]
      dsimp only [Value.toInt]
      rw [hread]
      dsimp only [exceeds]
      rw [Int.toNat_natCast]
      by_cases hlarge : n < (Number.digitsValue text.toList : Int)
      · rw [decide_eq_true hlarge]
        exact .inr ⟨fun h => by have := hdeclares.1 h hdigits; omega, _, rfl⟩
      · rw [decide_eq_false hlarge]
        exact .inl ⟨hdeclares.2 fun _ => by omega, rfl⟩
    · rw [if_neg (mt (digits_iff hascii).1 hdigits)]
      exact .inl ⟨hdeclares.2 fun h => absurd h hdigits, rfl⟩

/-! ## Replies -/

theorem isImage_getD (type? : Option String) :
    MediaType.isImage ((type?.filter MediaType.isImage).getD MediaType.usual) = true := by
  cases h : type?.filter MediaType.isImage with
  | none => decide
  | some type => exact (Option.filter_eq_some_iff.1 h).2

/-- The media type that an image is given by its extension is one of images. -/
theorem isImage_guess (url : String) : MediaType.isImage (MediaType.guess url) = true := by
  rw [MediaType.guess]
  exact isImage_getD _

/-- What a reply must be for its body to be taken for an image. -/
structure Passes (n : Int) (r : HttpReply) : Prop where
  answered : r.status < 400
  declared : Declares n r
  typed : mayBeImage (declaredType r) = true
  sized : r.body.size = 0 ∨ (r.body.size : Int) ≤ n

/-- The media type of the image in a reply. -/
def typeOf (url : String) (r : HttpReply) : String :=
  if MediaType.isImage (declaredType r) then declaredType r else MediaType.guess url

theorem isImage_typeOf (url : String) (r : HttpReply) : MediaType.isImage (typeOf url r) = true := by
  unfold typeOf
  split
  · assumption
  · exact isImage_guess url

/-- The image in a reply whose body is taken for one. -/
def imageOf (url : String) (r : HttpReply) : Download :=
  ⟨url, r.body, typeOf url r, MediaType.fileName url (typeOf url r)⟩

@[simp] theorem content_imageOf (url : String) (r : HttpReply) : (imageOf url r).content = r.body := by rw [imageOf]

@[simp] theorem contentType_imageOf (url : String) (r : HttpReply) : (imageOf url r).contentType = typeOf url r := by
  rw [imageOf]

theorem pure_bind_ok {α β : Type} (x : α) (f : α → Except Fault β) : (Except.ok x >>= f) = f x := rfl

theorem throw_bind {α β : Type} (e : Fault) (f : α → Except Fault β) : (throw e >>= f) = .error e := rfl

theorem ofReply_int (n : Int) (url : String) (r : HttpReply) :
    ofReply (.int n) url r =
      if r.status ≥ 400 then .error (failed url ("HTTP " ++ toString r.status) (some r.status))
      else checkLength url (.int n) r >>= fun _ =>
        if mayBeImage (declaredType r) then
          if r.body.size = 0 ∨ (r.body.size : Int) ≤ n then .ok (imageOf url r)
          else .error (tooLarge url (.int n))
        else .error (failed url ("Not an image: " ++ declaredType r)) := by
  unfold ofReply
  rw [gather_received]
  dsimp only
  by_cases hstatus : r.status ≥ 400
  · rw [if_pos hstatus, if_pos hstatus]
    exact throw_bind _ _
  rw [if_neg hstatus, if_neg hstatus]
  refine bind_congr fun _ => ?_
  cases mayBeImage (declaredType r) with
  | false => exact throw_bind _ _
  | true =>
    rw [if_neg (by decide), if_pos rfl]
    by_cases hsize : r.body.size = 0 ∨ (r.body.size : Int) ≤ n
    · rw [if_pos hsize, if_pos hsize]
      rfl
    · rw [if_neg hsize, if_neg hsize]
      rfl

/-- The body of a reply that passes is the image, and of any other there is none. -/
theorem ofReply_cases {r : HttpReply} (hbrief : Brief r) (n : Int) (url : String) :
    (Passes n r ∧ ofReply (.int n) url r = .ok (imageOf url r)) ∨
      ¬ Passes n r ∧ ∃ e, ofReply (.int n) url r = .error e := by
  rw [ofReply_int]
  by_cases hstatus : r.status ≥ 400
  · rw [if_pos hstatus]
    exact .inr ⟨fun h => absurd h.answered (by omega), _, rfl⟩
  rw [if_neg hstatus]
  rcases checkLength_int hbrief url n with ⟨hdeclared, hcheck⟩ | ⟨hdeclared, e, hcheck⟩
  case inr =>
    rw [hcheck]
    exact .inr ⟨fun h => hdeclared h.declared, e, rfl⟩
  rw [hcheck, pure_bind_ok]
  by_cases htyped : mayBeImage (declaredType r) = true
  case neg =>
    rw [if_neg htyped]
    exact .inr ⟨fun h => htyped h.typed, _, rfl⟩
  rw [if_pos htyped]
  by_cases hsized : r.body.size = 0 ∨ (r.body.size : Int) ≤ n
  case neg =>
    rw [if_neg hsized]
    exact .inr ⟨fun h => hsized h.sized, _, rfl⟩
  rw [if_pos hsized]
  exact .inl ⟨⟨Int.not_le.1 hstatus, hdeclared, htyped, hsized⟩, rfl⟩

/-- What a reply comes to does not depend on how its body is divided into chunks. -/
theorem ofReply_congr {r r' : HttpReply} (hstatus : r'.status = r.status) (hheaders : r'.headers = r.headers)
    (hbody : r'.body = r.body) (n : Int) (url : String) : ofReply (.int n) url r' = ofReply (.int n) url r := by
  have hheader : ∀ name, r'.header? name = r.header? name := by
    intro name
    rw [HttpReply.header?, HttpReply.header?, hheaders]
  have hlength : checkLength url (.int n) r' = checkLength url (.int n) r := by
    rw [checkLength, checkLength, declared?, declared?, hheader]
  have htype : declaredType r' = declaredType r := by rw [declaredType, declaredType, hheader]
  have himage : imageOf url r' = imageOf url r := by rw [imageOf, imageOf, typeOf, typeOf, htype, hbody]
  rw [ofReply_int, ofReply_int, hstatus, hlength, htype, hbody, himage]

/-! ## Images -/

/-- An image as it may be moved into an upload: of a type of images, and within the limit or empty. -/
structure Fits (n : Int) (image : Download) : Prop where
  typed : MediaType.isImage image.contentType = true
  sized : image.content.size = 0 ∨ (image.content.size : Int) ≤ n

theorem fits_imageOf {n : Int} {r : HttpReply} (h : r.body.size = 0 ∨ (r.body.size : Int) ≤ n) (url : String) :
    Fits n (imageOf url r) := by
  constructor
  · rw [contentType_imageOf]
    exact isImage_typeOf url r
  · rwa [content_imageOf]

theorem fits_ofReply {n : Int} {url : String} {r : HttpReply} {image : Download}
    (h : ofReply (.int n) url r = .ok image) : image.content = r.body ∧ Fits n image := by
  rw [ofReply_int] at h
  split at h
  · cases h
  obtain ⟨_, -, h⟩ := exists_of_bind h
  split at h
  · split at h
    next hsized =>
      rw [← Except.ok.inj h]
      exact ⟨content_imageOf url r, fits_imageOf hsized url⟩
    · cases h
  · cases h

theorem fits_ofData {n : Int} {url : String} {image : Download} (h : ofData (.int n) url = .ok image) :
    Fits n image := by
  unfold ofData at h
  split at h
  · cases h
  next header payload _ =>
    dsimp only at h
    generalize String.ofList (lower _) = contentType at h
    split at h
    · cases h
    next htyped =>
      split at h
      · cases h
      next content _ =>
        split at h
        · cases h
        · cases h
        next hexceeds =>
          cases h
          -- here the content itself is held against the limit, empty or not
          have hsized : decide (n < (content.size : Int)) = false := Except.ok.inj hexceeds
          exact ⟨by simpa using htyped, .inr (Int.not_lt.1 (of_decide_eq_false hsized))⟩

section Run
variable {σ τ : Type} {c : Clipper σ τ} {n : Int} {url : String} {s t : Session σ τ}

/-- A URL of the web, whose image is fetched from its host. -/
def OfWeb (url : String) : Prop := startsWith "data:".toList url.toList = false ∧ urlError? url = none

/-- What the host answers decides what comes of the download. -/
theorem run_ofWeb (hlimit : c.settings.maxImageBytes = .int n) (hurl : OfWeb url) {r : HttpReply}
    (h : carryOut (fetchFrom maxRedirects url) c s = (.ok (.answer r), t)) :
    carryOut (run url) c s = (ofReply (.int n) url r, t) := by
  rw [run, carryOut_bind, carryOut_read]
  dsimp only
  rw [hurl.1, if_neg Bool.false_ne_true, hurl.2]
  dsimp only
  rw [carryOut_bind, h]
  dsimp only
  rw [carryOut_orFault, hlimit]

/-- Whatever is downloaded may be moved into an upload. -/
theorem run_fits (hlimit : c.settings.maxImageBytes = .int n) {image : Download}
    (h : (carryOut (run url) c s).1 = .ok image) : Fits n image := by
  rw [run, carryOut_bind, carryOut_read] at h
  dsimp only at h
  rw [hlimit] at h
  split at h
  · rw [carryOut_orFault] at h
    exact fits_ofData h
  split at h
  · cases h
  rw [carryOut_bind] at h
  generalize carryOut (fetchFrom maxRedirects url) c s = fetched at h
  rcases fetched with ⟨e | a, t⟩
  · cases h
  cases a with
  | answer r =>
    dsimp only at h
    rw [carryOut_orFault] at h
    exact (fits_ofReply h).2
  | failure f => cases h
  | silence => cases h

end Run

end Download

/-! ## What is logged -/

namespace Act

variable {σ τ : Type} {α β : Type}

/-- Whatever the session, the action adds nothing to its log but events that satisfy `P`. -/
def Logs (c : Clipper σ τ) (P : Event → Prop) (a : Act σ τ α) : Prop :=
  ∀ s, ∃ log, (carryOut a c s).2.events = log ++ s.events ∧ ∀ e ∈ log, P e

namespace Logs

variable {c : Clipper σ τ} {P : Event → Prop}

/-- An action that logs nothing. -/
theorem nothing {a : Act σ τ α} (h : ∀ s, (carryOut a c s).2.events = s.events) : Logs c P a :=
  fun s => ⟨[], h s, nofun⟩

theorem orFault (r : Except Fault α) : Logs c P (Act.orFault r : Act σ τ α) :=
  nothing fun s => by rw [carryOut_orFault]

theorem event {e : Event} (h : P e) : Logs c P (Act.log e : Act σ τ Unit) :=
  fun _ => ⟨[e], rfl, by simpa using h⟩

theorem bind {a : Act σ τ α} {f : α → Act σ τ β} (ha : Logs c P a) (hf : ∀ x, Logs c P (f x)) :
    Logs c P (a >>= f) := by
  intro s
  obtain ⟨before, hbefore, hp⟩ := ha s
  rw [carryOut_bind]
  generalize carryOut a c s = first at hbefore ⊢
  rcases first with ⟨e | x, t⟩
  · exact ⟨before, hbefore, hp⟩
  · obtain ⟨after, hafter, hq⟩ := hf x t
    refine ⟨after ++ before, ?_, List.forall_mem_append.2 ⟨hq, hp⟩⟩
    rw [List.append_assoc, ← show t.events = before ++ s.events from hbefore]
    exact hafter

/-- What it adds to the log of one session. -/
theorem of_carryOut {a : Act σ τ α} {s t : Session σ τ} {r : Except Fault α} (ha : Logs c P a)
    (h : carryOut a c s = (r, t)) : ∃ log, t.events = log ++ s.events ∧ ∀ e ∈ log, P e := by
  obtain ⟨log, hlog, hall⟩ := ha s
  rw [h] at hlog
  exact ⟨log, hlog, hall⟩

end Logs

end Act

section Uploads

variable {σ τ : Type} [Clock τ] {c : Clipper σ τ} {n : Int} {image : Download}

/-- An event that moves nothing into an upload but images within the limit, or empty ones. -/
def Event.Allowed (n : Int) : Event → Prop
  | .uploaded (.create _ type) => MediaType.isImage type = true
  | .uploaded (.send _ _ type content) =>
    MediaType.isImage type = true ∧ (content.size = 0 ∨ (content.size : Int) ≤ n)
  | _ => True

theorem Act.ask_logs (r : Request) : Logs c (Event.Allowed n) (ask r) := by
  intro s
  rcases events_ask (c := c) r s with hevents | ⟨hevents, -⟩
  · exact ⟨[.asked r], hevents, List.forall_mem_singleton.2 trivial⟩
  · exact ⟨[], hevents, nofun⟩

namespace Service

theorem askUpload_logs {r : UploadRequest} (h : (Event.uploaded r).Allowed n) :
    Logs c (Event.Allowed n) (askUpload r) := by
  intro s
  obtain ⟨log, hlog, hevents⟩ := (askUpload_requested (c := c) r s).events
  refine ⟨log, hevents, fun e he => ?_⟩
  rw [List.mem_singleton.1 (hlog.subset he)]
  exact h

theorem poll_logs (interval : Value) (attempts : Nat) (u : Upload) :
    Logs c (Event.Allowed n) (poll interval attempts u) := by
  induction attempts generalizing u with
  | zero => exact .nothing fun _ => rfl
  | succ attempts ih =>
    rw [poll]
    split
    · exact .nothing fun _ => rfl
    · refine .bind (.event trivial) fun _ => ?_
      exact .bind (askUpload_logs trivial) fun reply => .bind (.orFault _) fun u => ih u

/-- Bringing an image into an upload that may be brought there does nothing else. -/
theorem upload_logs (h : image.Fits n) :
    Logs c (Event.Allowed n) (upload image.url image.fileName image.contentType image.content) := by
  unfold upload createUpload sendUpload
  refine .bind (.bind (askUpload_logs h.typed) fun _ => .orFault _) fun u => ?_
  refine .bind (.bind (askUpload_logs ⟨h.typed, h.sized⟩) fun _ => .orFault _) fun u => ?_
  refine .bind (.nothing fun _ => rfl) fun c' => ?_
  have hend (attempts : Nat) : Logs c (Event.Allowed n) (do
      let u ← poll c'.settings.uploadPollInterval attempts u
      if u.isDone then pure u.id
      else throw (.clip (.make (.upload image.url) ("Upload " ++ u.id.display ++ " not confirmed (status=" ++
        u.status.display ++ ")"))) : Act σ τ Value) := by
    refine .bind (poll_logs _ attempts u) fun u => ?_
    split
    · exact .nothing fun _ => rfl
    · exact .nothing fun _ => rfl
  split
  · exact hend 0
  · exact .bind (.orFault _) hend

end Service

namespace Download

omit [Clock τ] in
theorem fetch_logs (url : String) : Logs c (Event.Allowed n) (fetch url) := by
  refine .bind (.event trivial) fun _ => ?_
  exact .nothing fun _ => rfl

omit [Clock τ] in
theorem fetchFrom_logs (redirects : Nat) (url : String) : Logs c (Event.Allowed n) (fetchFrom redirects url) := by
  induction redirects generalizing url with
  | zero =>
    rw [fetchFrom]
    refine .bind (fetch_logs url) fun a => ?_
    split
    · split
      · exact .nothing fun _ => rfl
      · exact .nothing fun _ => rfl
    · exact .nothing fun _ => rfl
  | succ redirects ih =>
    rw [fetchFrom]
    refine .bind (fetch_logs url) fun a => ?_
    split
    · split
      · exact .nothing fun _ => rfl
      · dsimp only
        split
        · exact ih _
        · exact .nothing fun _ => rfl
    · exact .nothing fun _ => rfl

omit [Clock τ] in
/-- A download moves nothing into an upload. -/
theorem run_logs (url : String) : Logs c (Event.Allowed n) (run url) := by
  unfold run
  refine .bind (.nothing fun _ => rfl) fun c' => ?_
  dsimp only
  split
  · exact .orFault _
  split
  · exact .nothing fun _ => rfl
  refine .bind (fetchFrom_logs _ url) fun a => ?_
  cases a with
  | answer r => exact .orFault _
  | failure | silence => exact .nothing fun _ => rfl

end Download

/-! ## Courses -/

namespace Session

variable {s t : Session σ τ} {d : Deed} {ds : List Deed}

/-- A deed that moves nothing into an upload but images that may be logs nothing else. -/
theorem Makes.logs (h : Makes c s d t) (hfits : ∀ image o, d = .uploaded image o → image.Fits n) :
    ∃ log, t.events = log ++ s.events ∧ ∀ e ∈ log, e.Allowed n := by
  cases h with
  | noted => exact ⟨[], rfl, nofun⟩
  | listed h | updated h => exact (Act.ask_logs _).of_carryOut h
  | downloaded h => exact (Download.run_logs _).of_carryOut h
  | uploaded h => exact (Service.upload_logs (hfits _ _ rfl)).of_carryOut h

/-- So does a course. -/
theorem Course.logs (h : Course c s ds t) (hfits : ∀ image o, .uploaded image o ∈ ds → image.Fits n) :
    ∃ log, t.events = log ++ s.events ∧ ∀ e ∈ log, e.Allowed n := by
  induction h with
  | nil => exact ⟨[], rfl, nofun⟩
  | told _ _ ih => exact ih hfits
  | cons hmakes _ ih =>
    obtain ⟨before, hbefore, hall⟩ := hmakes.logs fun image o hd => hfits image o (hd ▸ List.mem_cons_self)
    obtain ⟨after, hafter, hrest⟩ := ih fun image o hmem => hfits image o (List.mem_cons_of_mem _ hmem)
    exact ⟨after ++ before, by rw [hafter, hbefore, List.append_assoc], List.forall_mem_append.2 ⟨hrest, hall⟩⟩

/-- What has been downloaded on the way may be moved into an upload. -/
theorem Course.fits (h : Course c s ds t) (hlimit : c.settings.maxImageBytes = .int n) {url : String}
    (hd : .downloaded url (.ok image) ∈ ds) : image.Fits n := by
  induction h with
  | nil => cases hd
  | told _ _ ih => exact ih hd
  | cons hmakes _ ih =>
    rcases List.mem_cons.1 hd with rfl | hd
    · cases hmakes with
      | downloaded hcarry => exact Download.run_fits hlimit (congrArg Prod.fst hcarry)
    · exact ih hd

end Session

namespace Image

/-- Only what has been downloaded is moved into an upload. -/
def Sourced (ds : List Deed) : Prop := ∀ image o, .uploaded image o ∈ ds → ∃ url, .downloaded url (.ok image) ∈ ds

omit [Clock τ] in
theorem uploads_moved {ds : List Deed} {r : Except Fault Value} (h : Moved image ds r) {other : Download}
    {o : Except Fault Value} (hmem : .uploaded other o ∈ ds) : other = image := by
  cases h <;> simp [Fate.deeds] at hmem <;> exact hmem.1

omit [Clock τ] in
theorem uploads_fate {f : Fate} {o : Except Fault Value} (hmem : .uploaded image o ∈ f.deeds) :
    ∃ url, f.download = (url, .ok image) := by
  cases f <;> simp [Fate.deeds] at hmem
  all_goals
    obtain ⟨rfl, -⟩ := hmem
    exact ⟨_, rfl⟩

omit [Clock τ] in
/-- What is moved into uploads is what the downloads have come to. -/
theorem uploads_settles {outcomes : List (String × Outcome)} {ds : List Deed} {r : Except Fault Assets}
    (h : Settles outcomes ds r) {o : Except Fault Value} (hmem : .uploaded image o ∈ ds) :
    ∃ url, (url, .ok image) ∈ outcomes := by
  induction h with
  | nil => cases hmem
  | cons f _ ih =>
    rcases List.mem_append.1 hmem with hmem | hmem
    · obtain ⟨url, hurl⟩ := uploads_fate hmem
      exact ⟨url, hurl ▸ List.mem_cons_self⟩
    · rcases List.mem_cons.1 hmem with heq | hmem
      · cases heq
      · obtain ⟨url, hurl⟩ := ih hmem
        exact ⟨url, List.mem_cons_of_mem _ hurl⟩
  | stopped hmoved _ =>
    rw [uploads_moved hmoved hmem]
    exact ⟨_, List.mem_cons_self⟩

omit [Clock τ] in
theorem Resolves.sourced {urls : List String} {enabled : Bool} {ds : List Deed} {r : Except Fault Assets}
    (h : Resolves urls enabled ds r) : Sourced ds := by
  intro image o hmem
  have hdiscovered : .uploaded image o ∉ discovered urls := by simp [discovered]
  have hbatched : ∀ {outcomes ds}, Batched outcomes ds → .uploaded image o ∉ ds := by
    intro outcomes ds hds hmem
    obtain ⟨p, -, heq | ⟨state, heq⟩⟩ := hds.mem hmem <;> cases heq
  cases h with
  | left => simp [discovered, leftAlone] at hmem
  | broken hds _ =>
    rcases List.mem_append.1 hmem with hmem | hmem
    · exact absurd hmem hdiscovered
    · exact absurd hmem (hbatched hds)
  | moved hds _ hes =>
    rcases List.mem_append.1 hmem with hmem | hmem
    · exact absurd hmem hdiscovered
    rcases List.mem_append.1 hmem with hmem | hmem
    · exact absurd hmem (hbatched hds)
    obtain ⟨url, hurl⟩ := uploads_settles hes hmem
    -- what has been downloaded has been so in one of the batches
    rw [← hds.downloads] at hurl
    obtain ⟨d, hd, hdownload⟩ := List.mem_filterMap.1 hurl
    cases d with
    | downloaded =>
      cases hdownload
      exact ⟨url, List.mem_append_right _ (List.mem_append_left _ hd)⟩
    | _ => cases hdownload

omit [Clock τ] in
theorem Rehosted.sourced {url : String} {ds : List Deed} {r : Except Fault Value} (h : Rehosted url ds r) :
    Sourced ds := by
  intro image o hmem
  have hsought : ∀ o', .uploaded image o ∉ sought url o' := by
    intro o' hmem
    simp only [sought, started, List.mem_cons, List.mem_append, reduceCtorEq, List.not_mem_nil, or_false, false_or,
      Option.mem_toList] at hmem
    obtain ⟨state, heq⟩ := Batched.isNote_of_ended? hmem
    cases heq
  have hdownloaded : ∀ o', .downloaded url o' ∈ sought url o' := by simp [sought, started]
  cases h with
  | notDownloaded => exact absurd hmem (hsought _)
  | notUploaded _ hmoved =>
    rcases List.mem_append.1 hmem with hmem | hmem
    · exact absurd hmem (hsought _)
    · rw [uploads_moved hmoved hmem]
      exact ⟨url, List.mem_append_left _ (hdownloaded _)⟩
  | @done other id _ =>
    rcases List.mem_append.1 hmem with hmem | hmem
    · exact absurd hmem (hsought _)
    · rcases List.mem_append.1 hmem with hmem | hmem
      · rw [uploads_moved (.done id) hmem]
        exact ⟨url, List.mem_append_left _ (hdownloaded _)⟩
      · simp at hmem

/-- Such a course logs no upload of anything else. -/
theorem Sourced.logs {ds : List Deed} (h : Sourced ds) (hlimit : c.settings.maxImageBytes = .int n)
    {s t : Session σ τ} (hcourse : Session.Course c s ds t) :
    ∃ log, t.events = log ++ s.events ∧ ∀ e ∈ log, e.Allowed n := by
  refine hcourse.logs fun image o hmem => ?_
  obtain ⟨url, hd⟩ := h image o hmem
  exact hcourse.fits hlimit hd

end Image

/-! ## The guards -/

open Download Image

/-- What guards a clipper whose limit is `n`. -/
structure Guards (c : Clipper σ τ) (n : Int) : Prop where
  /-- Exactly the replies that pass give an image. -/
  succeeds_iff : ∀ {url s r t}, OfWeb url → Brief r →
    carryOut (fetchFrom maxRedirects url) c s = (.ok (.answer r), t) →
    ((∃ image, (carryOut (Download.run url) c s).1 = .ok image) ↔ Passes n r)
  /-- It has the whole body and a type of images. -/
  whole : ∀ {url s r t image}, OfWeb url → carryOut (fetchFrom maxRedirects url) c s = (.ok (.answer r), t) →
    (carryOut (Download.run url) c s).1 = .ok image →
    image.content = r.body ∧ MediaType.isImage image.contentType = true
  /-- Two replies that differ in nothing but their chunks come to the same. -/
  unchunked : ∀ {c' : Clipper σ τ} {url s s' r r' t t'}, c'.settings.maxImageBytes = .int n → OfWeb url →
    carryOut (fetchFrom maxRedirects url) c s = (.ok (.answer r), t) →
    carryOut (fetchFrom maxRedirects url) c' s' = (.ok (.answer r'), t') →
    r'.status = r.status → r'.headers = r.headers → r'.body = r.body →
    (carryOut (Download.run url) c' s').1 = (carryOut (Download.run url) c s).1
  /-- Finding out where images live moves nothing into uploads but images within the limit, or empty ones. -/
  resolved : c.outside.Finishes → ∀ urls enabled s, ∃ log,
    (carryOut (resolveAll urls enabled) c s).2.events = log ++ s.events ∧ ∀ e ∈ log, e.Allowed n
  /-- Neither does moving a single one. -/
  rehosted : ∀ url s, ∃ log, (carryOut (rehost url) c s).2.events = log ++ s.events ∧ ∀ e ∈ log, e.Allowed n

/-- Downloads are guarded by the limit of the settings, whatever the hosts answer and however they divide it. -/
theorem downloads_guarded (hlimit : c.settings.maxImageBytes = .int n) : Guards c n where
  succeeds_iff {url s r t} hurl hbrief hfetch := by
    rw [run_ofWeb hlimit hurl hfetch]
    rcases ofReply_cases hbrief n url with ⟨hpasses, hok⟩ | ⟨hnot, e, herror⟩
    · exact iff_of_true ⟨_, hok⟩ hpasses
    · refine iff_of_false ?_ hnot
      rintro ⟨image, hok⟩
      rw [herror] at hok
      cases hok
  whole {url s r t image} hurl hfetch hrun := by
    rw [run_ofWeb hlimit hurl hfetch] at hrun
    obtain ⟨hcontent, hfits⟩ := fits_ofReply hrun
    exact ⟨hcontent, hfits.typed⟩
  unchunked {c' url s s' r r' t t'} hlimit' hurl hfetch hfetch' hstatus hheaders hbody := by
    rw [run_ofWeb hlimit hurl hfetch, run_ofWeb hlimit' hurl hfetch', ofReply_congr hstatus hheaders hbody]
  resolved hfin urls enabled s := by
    obtain ⟨ds, hcourse, hresolves⟩ := resolveAll_follows hfin urls enabled s
    exact hresolves.sourced.logs hlimit hcourse
  rehosted url s := by
    obtain ⟨ds, hcourse, hrehosted⟩ := rehost_follows (c := c) url s
    exact hrehosted.sourced.logs hlimit hcourse

/-- A host whose only image has three bytes, which come in two chunks. -/
def threeBytes : Outside Unit Int :=
  { hospitable with
    fetch := fun _ _ => (.answer
      { headers := [("Content-Type", "image/png"), ("Content-Length", "3")]
        chunks := ["a".toUTF8, "bc".toUTF8] }, ()) }

/-- A clipper for which that is not too large. -/
def measured : Clipper Unit Int := { outside := threeBytes, settings := { maxImageBytes := .int 3 }, token := "" }

theorem measured_guarded :
    measured.settings.maxImageBytes = .int 3 ∧ measured.outside.Finishes ∧
      (match (carryOut (rehost "http://h/a.png") measured hospitableSession).1 with
        | .ok (.text id) => id == "1"
        | _ => false) = true ∧
      Guards measured 3 :=
  ⟨rfl, hospitable_finishes, by decide +kernel, downloads_guarded rfl⟩

/-- A host whose image has no bytes. -/
def bodiless : Outside Unit Int := { hospitable with fetch := fun _ _ => (.answer { chunks := [] }, ()) }

/-- A clipper for which no image is small enough. -/
def strict : Clipper Unit Int := { outside := bodiless, settings := { maxImageBytes := .int (-1) }, token := "" }

/-- An image without bytes is downloaded, although its size is beyond the limit. -/
theorem empty_slips :
    OfWeb "https://h/a.png" ∧ strict.settings.maxImageBytes = .int (-1) ∧
      (-1 : Int) < (HttpReply.body { chunks := [] }).size ∧
      ∃ image, (carryOut (Download.run "https://h/a.png") strict hospitableSession).1 = .ok image := by
  have hsucceeds : (carryOut (Download.run "https://h/a.png") strict hospitableSession).1.isOk = true := by
    decide +kernel
  refine ⟨⟨by decide +kernel, by decide +kernel⟩, rfl, by decide +kernel, ?_⟩
  cases hr : (carryOut (Download.run "https://h/a.png") strict hospitableSession).1 with
  | ok image => exact ⟨image, rfl⟩
  | error f =>
    rw [hr] at hsucceeds
    cases hsucceeds

end Uploads

end WebClip
