import WebClip.Proofs.Encodings
import WebClip.Proofs.Guarding
import WebClip.Proofs.Splitting
/-!
# Images in data URLs

The header of a data URL names a media type and parameters, and its payload is what follows the first comma. Whatever
bytes have been written into the payload, in base64 or percent-encoded, a download gives them back without reaching
the outside, unless they are too large.
-/

namespace WebClip

namespace Download

open Act Text

/-- A media type or a parameter that can stand in the header of a data URL. -/
def Undivided (cs : List Char) : Prop := ',' ∉ cs ∧ ';' ∉ cs

instance (cs : List Char) : Decidable (Undivided cs) := inferInstanceAs (Decidable (_ ∧ _))

/-- The data URL of a media type, parameters and a payload. -/
def dataUrl (type : List Char) (params : List (List Char)) (payload : List Char) : String :=
  String.ofList ("data:".toList ++ ([';'].intercalate (type :: params) ++ ',' :: payload))

/-! ## Payloads -/

section Payloads
variable {type : List Char} {params : List (List Char)}

theorem drop_dataUrl (type : List Char) (params : List (List Char)) (payload : List Char) :
    startsWith "data:".toList (dataUrl type params payload).toList = true ∧
      (dataUrl type params payload).toList.drop 5 = [';'].intercalate (type :: params) ++ ',' :: payload := by
  have hlist : (dataUrl type params payload).toList =
      "data:".toList ++ ([';'].intercalate (type :: params) ++ ',' :: payload) := String.toList_ofList
  rw [hlist]
  exact ⟨List.isPrefixOf_iff_prefix.2 (List.prefix_append _ _), List.drop_left' rfl⟩

/-- The header of a data URL is read as it was written, so the content is decided by the payload and its size. -/
theorem ofData_dataUrl (himage : MediaType.isImage (String.ofList type) = true) (hlower : lower type = type)
    (hparts : ∀ p ∈ type :: params, Undivided p) {payload : List Char} {content : ByteArray}
    (hpayload : payloadContent (params.contains "base64".toList) payload = .ok content) (n : Int) :
    ofData (.int n) (dataUrl type params payload) =
      if (content.size : Int) ≤ n then
        .ok ⟨dataUrl type params payload, content, String.ofList type,
          MediaType.fileName (dataUrl type params payload) (String.ofList type)⟩
      else .error (tooLarge (dataUrl type params payload) (.int n)) := by
  have hheader : ',' ∉ [';'].intercalate (type :: params) :=
    notMem_intercalate (by decide) fun p hp => (hparts p hp).1
  have hsplit : splitOn ';' ([';'].intercalate (type :: params)) = type :: params :=
    splitOn_intercalate fun p hp => (hparts p hp).2
  have htype : type.isEmpty = false := by
    cases type with
    | nil => exact absurd himage (by decide)
    | cons => rfl
  unfold ofData
  rw [(drop_dataUrl type params payload).2, cutAt_append hheader]
  dsimp only
  rw [hsplit, List.headD_cons, List.tail_cons, htype, if_neg Bool.false_ne_true, hlower, himage, Bool.not_true,
    if_neg Bool.false_ne_true, hpayload]
  dsimp only
  by_cases hsize : (content.size : Int) ≤ n
  · rw [if_pos hsize, exceeds, decide_eq_false (by omega)]
  · rw [if_neg hsize, exceeds, decide_eq_true (by omega)]

theorem payloadContent_base64 (bytes : List UInt8) :
    payloadContent true (Base64.encode bytes) = .ok bytes.toByteArray := by
  rw [payloadContent, if_pos rfl, Base64.decode_encode]

theorem payloadContent_percent {bytes : List UInt8} {cs : List Char} (h : Percent.Writes bytes cs) :
    payloadContent false cs = .ok bytes.toByteArray := by
  rw [payloadContent, if_neg Bool.false_ne_true, Percent.decode_of_writes h]

end Payloads

/-! ## Downloads -/

section RoundTrip
variable {σ τ : Type} {c : Clipper σ τ} {n : Int}

/-- A download of a URL that finds bytes of a media type if they are within the limit, and is refused as too large
otherwise. Neither way does it touch the session. -/
structure Recovers (c : Clipper σ τ) (n : Int) (type : String) (bytes : List UInt8) (url : String) : Prop where
  found (s : Session σ τ) : (bytes.length : Int) ≤ n →
    carryOut (run url) c s = (.ok ⟨url, bytes.toByteArray, type, MediaType.fileName url type⟩, s)
  refused (s : Session σ τ) : n < bytes.length → ∃ e : ClipError, carryOut (run url) c s = (.error (.clip e), s) ∧
    e.kind = .download url ∧ e.message = "Image too large (max " ++ toString n ++ " bytes)"

theorem recovers_dataUrl (hlimit : c.settings.maxImageBytes = .int n) {type : List Char} {params : List (List Char)}
    (himage : MediaType.isImage (String.ofList type) = true) (hlower : lower type = type)
    (hparts : ∀ p ∈ type :: params, Undivided p) {payload : List Char} {bytes : List UInt8}
    (hpayload : payloadContent (params.contains "base64".toList) payload = .ok bytes.toByteArray) :
    Recovers c n (String.ofList type) bytes (dataUrl type params payload) := by
  have hrun (s : Session σ τ) : carryOut (run (dataUrl type params payload)) c s =
      (ofData (.int n) (dataUrl type params payload), s) := by
    rw [run, carryOut_bind, carryOut_read]
    dsimp only
    rw [(drop_dataUrl type params payload).1, if_pos rfl, carryOut_orFault, hlimit]
  have hsize : bytes.toByteArray.size = bytes.length := List.size_toByteArray
  refine ⟨fun s hle => ?_, fun s hlarge => ?_⟩
  · rw [hrun, ofData_dataUrl himage hlower hparts hpayload, hsize, if_pos hle]
  · rw [hrun, ofData_dataUrl himage hlower hparts hpayload, hsize, if_neg (by omega)]
    refine ⟨_, rfl, rfl, ?_⟩
    simp [ClipError.make, Value.display, Value.quoted]

/-- A data URL of an image gives back the bytes that were written into it and their media type, whatever parameters
there are: from base64 behind the parameter that says so, and from any percent encoding where none says so. -/
theorem dataUrl_roundTrips (hlimit : c.settings.maxImageBytes = .int n) {type : List Char}
    (himage : MediaType.isImage (String.ofList type) = true) (hlower : lower type = type) (htype : Undivided type)
    {params : List (List Char)} (hparams : ∀ p ∈ params, Undivided p ∧ p ≠ "base64".toList) (bytes : List UInt8) :
    Recovers c n (String.ofList type) bytes
        (dataUrl type (params ++ ["base64".toList]) (Base64.encode bytes)) ∧
      ∀ cs, Percent.Writes bytes cs → Recovers c n (String.ofList type) bytes (dataUrl type params cs) := by
  have hbase : Undivided "base64".toList := by decide
  have hnone : params.contains "base64".toList = false := by
    rw [← Bool.not_eq_true, List.contains_iff_mem]
    exact fun h => (hparams _ h).2 rfl
  constructor
  · refine recovers_dataUrl hlimit himage hlower ?_ ?_
    · intro p hp
      simp only [List.mem_cons, List.mem_append, List.not_mem_nil, or_false] at hp
      rcases hp with rfl | hp | rfl
      · exact htype
      · exact (hparams p hp).1
      · exact hbase
    · rw [List.contains_iff_mem.2 (List.mem_append_right _ List.mem_cons_self)]
      exact payloadContent_base64 bytes
  · intro cs hcs
    refine recovers_dataUrl hlimit himage hlower ?_ ?_
    · exact List.forall_mem_cons.2 ⟨htype, fun p hp => (hparams p hp).1⟩
    · rw [hnone]
      exact payloadContent_percent hcs

end RoundTrip

/-- A clipper for which images of three bytes are not too large. -/
def threeBytesAtMost : Clipper Unit Int :=
  { Image.hospitableClipper with settings := { maxImageBytes := .int 3 } }

/-- A comma, a semicolon and a null byte in both forms. -/
theorem separators_roundTrip :
    MediaType.isImage (String.ofList "image/gif".toList) = true ∧ lower "image/gif".toList = "image/gif".toList ∧
      Undivided "image/gif".toList ∧
      (∀ p ∈ ["charset=utf-8".toList], Undivided p ∧ p ≠ "base64".toList) ∧
      Percent.Writes [44, 59, 0] ",%3b%00".toList ∧
      Recovers threeBytesAtMost 3 "image/gif" [44, 59, 0] "data:image/gif;charset=utf-8;base64,LDsA" ∧
      Recovers threeBytesAtMost 3 "image/gif" [44, 59, 0] "data:image/gif;charset=utf-8,,%3b%00" := by
  have himage : MediaType.isImage (String.ofList "image/gif".toList) = true := by decide
  have hlower : lower "image/gif".toList = "image/gif".toList := by decide
  have htype : Undivided "image/gif".toList := by decide
  have hparams : ∀ p ∈ ["charset=utf-8".toList], Undivided p ∧ p ≠ "base64".toList := by decide
  have hwrites : Percent.Writes [44, 59, 0] ",%3b%00".toList := by
    refine .kept (c := ',') (by decide) (by decide) (.escaped (b := 59) ?_ ?_ (.escaped (b := 0) ?_ ?_ .nil))
    · exact .inl rfl
    · exact .inl rfl
    · exact .inl rfl
    · exact .inl rfl
  obtain ⟨hbase64, hpercent⟩ :=
    dataUrl_roundTrips (c := threeBytesAtMost) rfl himage hlower htype hparams [44, 59, 0]
  exact ⟨himage, hlower, htype, hparams, hwrites, hbase64, hpercent _ hwrites⟩

end Download

end WebClip
