import WebClip.Proofs.Pages
/-!
# Nodes that cannot be compiled

Compiling a node is a matter of steps, any of which may end in a fault when diagnostics have been given already. The
nodes of a page are compiled one after another all the same: a fault is told of, and the plain text of the node stands
for it. So a page always comes out, every node of it as if it were alone.
-/

namespace WebClip.Page

/-- Compiling step by step: a fault ends it, but what has been told of so far stays told. -/
abbrev Stepwise := ExceptT Fault (StateM (List String))

namespace Stepwise

variable {α β : Type}

/-- Carry out steps behind the diagnostics that have been given. -/
def carryOut (a : Stepwise α) (told : List String) : Except Fault α × List String := StateT.run (ExceptT.run a) told

/-! ## Steps -/

/-- Give a diagnostic. -/
def diagnose (text : String) : Stepwise Unit := modify fun told => told ++ [text]

/-- Go on with a value unless it is a fault. -/
def orFault : Except Fault α → Stepwise α
  | .ok x => pure x
  | .error e => throw e

/-- Go through spans, which may be missing. -/
def iterate : Option (List Span) → Stepwise (List Span)
  | some spans => pure spans
  | none => throw (.wrongKind "'NoneType' object is not iterable")

/-- The runs of spans, unless one of their references cannot be decoded. -/
def runs (spans : Option (List Span)) : Stepwise (List Run) := do
  let spans ← iterate spans
  match Run.oversized? spans with
  | none => pure (Run.ofSpans spans)
  | some digits => throw (Value.tooManyDigits digits)

/-- The block of an image, or a diagnostic of it. -/
def image (assets : Assets) (url alt : String) : Stepwise (List Block) := do
  let asset := assetFor assets url
  let value := asset.value.getD ""
  if asset.isUploaded then pure [.image (.upload value) (Run.ofText alt)]
  else if isEmbeddable value then pure [.image (.external value) (Run.ofText alt)]
  else
    diagnose ("Dropping image with unusable external URL (" ++ toString value.length ++ " chars): " ++
      String.ofList (value.toList.take 80))
    pure []

/-- The images among spans, one after another. -/
def imagesAmong (assets : Assets) : List Span → Stepwise (List Block)
  | [] => pure []
  | s :: rest => do
    let first ← match s.image with
      | some url => image assets url s.text
      | none => pure []
    pure (first ++ (← imagesAmong assets rest))

/-- A block of text, which has been built already, and then the images of its spans. -/
def withImages (assets : Assets) (keep : Bool) (b : Block) (spans : Option (List Span)) : Stepwise (List Block) := do
  let images ← imagesAmong assets (← iterate spans)
  pure (if b.runs.isEmpty && !images.isEmpty && !keep then images else b :: images)

/-- The blocks of a node. -/
def node (assets : Assets) : Node → Stepwise (List Block)
  | .heading level spans => do
    let level ← orFault (headingLevel level)
    withImages assets false (.heading level (← runs spans)) spans
  | .paragraph spans => do withImages assets false (.paragraph (← runs spans)) spans
  | .quote spans => do withImages assets false (.quote (← runs spans)) spans
  | .item ordered spans _ => do withImages assets true (.item ordered (← runs spans)) spans
  | .code language text => pure (compileCode language text).blocks
  | .rule => pure [.divider]
  | .image url alt => image assets url alt
  | .foreign spans => throw (.wrongKind ("Unknown node type: " ++ (Node.foreign spans).kindName))

/-- The plain text of a node. -/
def plainText (n : Node) : Stepwise String :=
  match n.text? with
  | some text => pure text
  | none => throw (.wrongKind "'NoneType' object is not iterable")

/-- The paragraph of a node's plain text, if it has one that is visible. -/
def fallback (n : Node) : Stepwise (List Block) := do
  let text? ← tryCatch (do pure (some (← plainText n))) fun _ => pure none
  match text? with
  | none => pure []
  | some text => if Text.blank text then pure [] else pure [.paragraph (Run.ofText text)]

/-- What is told of a node that fails, by its place in the page. -/
def failure (index : Nat) (n : Node) (e : Fault) : String :=
  "Node " ++ toString index ++ " (" ++ n.kindName ++ ") failed to compile, using plain text: " ++ e.message

/-- The blocks of nodes, the first of which stands at `index`: where one ends in a fault it is told of, and what can be
said of the node otherwise takes its place. -/
def nodes (assets : Assets) (index : Nat) : List Node → Stepwise (List Block)
  | [] => pure []
  | n :: rest => do
    let blocks ← tryCatch (node assets n) fun e => do
      diagnose (failure index n e)
      fallback n
    pure (blocks ++ (← nodes assets (index + 1) rest))

/-! ## What steps come to -/

theorem carryOut_bind (a : Stepwise α) (f : α → Stepwise β) (told : List String) :
    (a >>= f).carryOut told = match a.carryOut told with
      | (.ok x, t) => (f x).carryOut t
      | (.error e, t) => (.error e, t) := by
  rw [show (a >>= f).carryOut told = ExceptT.bindCont f (a.carryOut told).1 (a.carryOut told).2 from rfl]
  rcases a.carryOut told with ⟨_ | _, t⟩ <;> rfl

/-- What has been told before a fault is caught stays told. -/
theorem carryOut_tryCatch (a : Stepwise α) (h : Fault → Stepwise α) (told : List String) :
    (tryCatch a h).carryOut told = match a.carryOut told with
      | (.ok x, t) => (.ok x, t)
      | (.error e, t) => (h e).carryOut t := by
  rw [show (tryCatch a h).carryOut told = ExceptT.tryCatch a h told from rfl]
  unfold ExceptT.tryCatch ExceptT.mk
  simp only [bind, StateT.bind]
  rw [show a.carryOut told = a told from rfl]
  rcases a told with ⟨_ | _, t⟩ <;> rfl

/-- Whatever has been told before, the steps come to the same and tell the same. -/
def Gives (a : Stepwise α) (r : Except Fault α) (ds : List String) : Prop :=
  ∀ told, a.carryOut told = (r, told ++ ds)

namespace Gives

variable {a : Stepwise α} {f : α → Stepwise β} {h : Fault → Stepwise α} {x : α} {r : Except Fault β}
  {q : Except Fault α} {e : Fault} {ds es : List String}

theorem pure (x : α) : Gives (Pure.pure x) (.ok x) [] := fun told => by rw [List.append_nil]; rfl

theorem throw (e : Fault) : Gives (throw e : Stepwise α) (.error e) [] := fun told => by rw [List.append_nil]; rfl

theorem diagnose (text : String) : Gives (Stepwise.diagnose text) (.ok ()) [text] := fun _ => rfl

theorem orFault (q : Except Fault α) : Gives (Stepwise.orFault q) q [] := by
  cases q with
  | ok x => exact .pure x
  | error e => exact .throw e

theorem bind (ha : Gives a (.ok x) ds) (hf : Gives (f x) r es) : Gives (a >>= f) r (ds ++ es) := by
  intro told
  rw [carryOut_bind, ha told]
  dsimp only
  rw [hf, List.append_assoc]

/-- Last a step that tells nothing. -/
theorem bind_pure {g : α → β} (ha : Gives a (.ok x) ds) : Gives (a >>= fun x => Pure.pure (g x)) (.ok (g x)) ds := by
  have hg := ha.bind (f := fun x => Pure.pure (g x)) (.pure (g x))
  rwa [List.append_nil] at hg

/-- First steps that tell nothing. -/
theorem bind_silent (ha : Gives a (.ok x) []) (hf : Gives (f x) r es) : Gives (a >>= f) r es := ha.bind hf

theorem bind_error (ha : Gives a (.error e) ds) : Gives (a >>= f) (.error e) ds := by
  intro told
  rw [carryOut_bind, ha told]

theorem tryCatch (ha : Gives a (.ok x) ds) : Gives (MonadExcept.tryCatch a h) (.ok x) ds := by
  intro told
  rw [carryOut_tryCatch, ha told]

/-- A fault of steps that have told nothing. -/
theorem tryCatch_error (ha : Gives a (.error e) []) (hh : Gives (h e) q ds) :
    Gives (MonadExcept.tryCatch a h) q ds := by
  intro told
  rw [carryOut_tryCatch, ha told, List.append_nil]
  exact hh told

end Gives

variable {assets : Assets}

/-! ## Nodes step by step -/

theorem image_gives (url alt : String) :
    Gives (image assets url alt) (.ok (compileImage assets url alt).blocks) (compileImage assets url alt).diagnostics := by
  unfold image compileImage
  dsimp only
  split
  · exact .pure _
  split
  · exact .pure _
  · exact .bind (.diagnose _) (.pure _)

theorem imagesAmong_gives (spans : List Span) :
    Gives (imagesAmong assets spans) (.ok (compileImages assets spans).blocks)
      (compileImages assets spans).diagnostics := by
  induction spans with
  | nil => exact .pure _
  | cons s rest ih =>
    have hcons : compileImages assets (s :: rest) =
        (match s.image with | some url => compileImage assets url s.text | none => {}).append
          (compileImages assets rest) := rfl
    rw [imagesAmong, hcons]
    cases s.image with
    | none => exact .bind_silent (.pure _) ih.bind_pure
    | some url => exact .bind (image_gives url s.text) ih.bind_pure

theorem withImages_gives (keep : Bool) (b : Block) (spans : List Span) :
    Gives (withImages assets keep b (some spans)) (.ok (Page.withImages assets keep b spans).blocks)
      (Page.withImages assets keep b spans).diagnostics := by
  have hsteps : Gives (withImages assets keep b (some spans)) _ _ :=
    .bind_silent (.pure spans) (imagesAmong_gives spans).bind_pure
  unfold Page.withImages
  dsimp only at hsteps ⊢
  split at hsteps
  next hdropped =>
    rw [if_pos hdropped]
    exact hsteps
  next hkept =>
    rw [if_neg hkept]
    exact hsteps

/-- The runs of spans are missing for the reason that the spans give. -/
theorem runs_gives (spans : Option (List Span)) :
    Gives (runs spans) (match Node.spansError? spans with
      | none => .ok (Run.ofSpans (spans.getD []))
      | some e => .error e) [] := by
  cases spans with
  | none => exact .bind_error (.throw _)
  | some spans =>
    refine .bind_silent (.pure spans) ?_
    rw [Node.spansError?]
    cases Run.oversized? spans with
    | none => exact .pure _
    | some digits => exact .throw _

/-- A text of which the runs are found is compiled with its images; any other ends in its fault, with nothing told. -/
theorem text_gives {build : List Run → Block} (keep : Bool) (spans : Option (List Span)) :
    Gives (do withImages assets keep (build (← runs spans)) spans)
      (match Node.spansError? spans with
        | none => .ok (Page.withImages assets keep (build (Run.ofSpans (spans.getD []))) (spans.getD [])).blocks
        | some e => .error e)
      (match Node.spansError? spans with
        | none => (Page.withImages assets keep (build (Run.ofSpans (spans.getD []))) (spans.getD [])).diagnostics
        | some _ => []) := by
  have hruns := runs_gives spans
  cases herror : Node.spansError? spans with
  | some e =>
    rw [herror] at hruns
    exact .bind_error hruns
  | none =>
    rw [herror] at hruns
    cases spans with
    | none => cases herror
    | some spans => exact .bind_silent hruns (withImages_gives keep _ spans)

/-- The steps of a node end in a fault exactly where it cannot be compiled, and then nothing has been told. -/
theorem node_gives (n : Node) :
    Gives (node assets n)
      (match n.error? with
        | none => .ok (n.compileSound assets).blocks
        | some e => .error e)
      (match n.error? with
        | none => (n.compileSound assets).diagnostics
        | some _ => []) := by
  cases n with
  | paragraph spans | quote spans | item _ spans _ => exact text_gives _ spans
  | code | rule => exact .pure _
  | image url alt => exact image_gives url alt
  | «foreign» spans => exact .throw _
  | heading level spans =>
    cases hlevel : headingLevel level with
    | error e =>
      have herror : (Node.heading level spans).error? = some e := by simp only [Node.error?, hlevel]
      rw [herror]
      refine .bind_error ?_
      rw [hlevel]
      exact .orFault _
    | ok k =>
      have herror : (Node.heading level spans).error? = Node.spansError? spans := by simp only [Node.error?, hlevel]
      have hsound : (Node.heading level spans).compileSound assets = Page.withImages assets false
          (.heading k (Run.ofSpans (spans.getD []))) (spans.getD []) := by simp only [Node.compileSound, hlevel]
      rw [herror, hsound]
      refine .bind_silent (x := k) ?_ (text_gives false spans)
      rw [hlevel]
      exact .orFault _

theorem fallback_gives (n : Node) : Gives (fallback n) (.ok n.fallback.blocks) [] := by
  unfold fallback plainText Node.fallback
  cases n.text? with
  | none =>
    refine .bind_silent (x := none) ?_ (.pure _)
    exact .tryCatch_error (.bind_error (.throw _)) (.pure _)
  | some text =>
    refine .bind_silent (x := some text) (.tryCatch (.bind_silent (.pure _) (.pure _))) ?_
    dsimp only
    split
    · exact .pure _
    · exact .pure _

/-- The steps of a page never end in a fault. They come to its blocks and tell its diagnostics. -/
theorem nodes_gives (ns : List Node) (index : Nat) :
    Gives (nodes assets index ns) (.ok (compileFrom assets index ns).blocks) (compileFrom assets index ns).diagnostics := by
  induction ns generalizing index with
  | nil => exact .pure _
  | cons n rest ih =>
    refine .bind ?_ (ih (index + 1)).bind_pure
    have hn : Gives (node assets n) _ _ := node_gives n
    cases herror : n.error? with
    | none =>
      rw [herror] at hn
      rw [Node.compile_of_sound herror]
      exact .tryCatch hn
    | some e =>
      rw [herror] at hn
      have htold : (n.compile assets index).diagnostics = [failure index n e] ++ n.fallback.diagnostics := by
        simp [Node.compile, herror, Compiled.diagnostic, failure]
      rw [Node.blocks_compile_of_error herror, htold, n.fallback_eq.1]
      exact .tryCatch_error hn (.bind (.diagnose (failure index n e)) (fallback_gives n))

/-- A node fails if its steps end in a fault. -/
def Fails (assets : Assets) (n : Node) (e : Fault) : Prop := ∀ told, ((node assets n).carryOut told).1 = .error e

theorem fails_iff {n : Node} {e : Fault} : Fails assets n e ↔ n.error? = some e := by
  have hn : Gives (node assets n) _ _ := node_gives n
  unfold Fails
  cases herror : n.error? with
  | none =>
    rw [herror] at hn
    simp [hn _]
  | some e' =>
    rw [herror] at hn
    simp [hn _]

end Stepwise

/-! ## Nodes alone -/

/-- A diagnostic of a node alone as it is given of the node at another place. -/
def renumbered (index : Nat) (diagnostic : String) : String :=
  if Text.startsWith "Node 0 (".toList diagnostic.toList then
    "Node " ++ toString index ++ String.ofList (diagnostic.toList.drop 6)
  else diagnostic

theorem renumbered_failure (index : Nat) (n : Node) (e : Fault) :
    renumbered index (Stepwise.failure 0 n e) = Stepwise.failure index n e := by
  have hlist : (Stepwise.failure 0 n e).toList = "Node 0 (".toList ++
      (n.kindName ++ ") failed to compile, using plain text: " ++ e.message).toList := by
    simp [Stepwise.failure, String.toList_append]
  have hstarts : Text.startsWith "Node 0 (".toList (Stepwise.failure 0 n e).toList = true := by
    rw [hlist]
    exact List.isPrefixOf_iff_prefix.2 (List.prefix_append _ _)
  rw [renumbered, if_pos hstarts, hlist]
  simp [Stepwise.failure, ← String.toList_inj]

/-- What is told of an image says nothing of its node. -/
theorem renumbered_diagnostic? {assets : Assets} {p : Picture} {d : String} (h : p.diagnostic? assets = some d)
    (index : Nat) : renumbered index d = d := by
  unfold Picture.diagnostic? at h
  split at h
  · cases h
  · cases h
    refine if_neg ?_
    simp [Text.startsWith]

variable {assets : Assets}

theorem compile_singleton (n : Node) :
    (compile assets [n]).blocks = (n.compile assets 0).blocks ∧
      (compile assets [n]).diagnostics = (n.compile assets 0).diagnostics :=
  ⟨List.append_nil _, List.append_nil _⟩

/-- A node that fails gives its one diagnostic, and a node that does not gives those of its images. -/
theorem diagnostics_of_error {n : Node} {e : Fault} (h : n.error? = some e) (index : Nat) :
    (n.compile assets index).diagnostics = [Stepwise.failure index n e] := by
  simp [Node.compile, h, Compiled.diagnostic, Stepwise.failure, n.fallback_eq.1]

theorem diagnostics_compile (n : Node) (index : Nat) :
    (n.compile assets index).diagnostics = (n.compile assets 0).diagnostics.map (renumbered index) := by
  cases herror : n.error? with
  | some e =>
    rw [diagnostics_of_error herror, diagnostics_of_error herror, List.map_singleton, renumbered_failure]
  | none =>
    rw [Node.compile_of_sound herror, Node.compile_of_sound herror, (Node.compileSound_eq herror).2,
      List.map_filterMap]
    refine List.filterMap_congr fun p _ => ?_
    cases hd : p.diagnostic? assets with
    | none => rfl
    | some d => rw [Option.map_some, renumbered_diagnostic? hd]

theorem diagnostics_compileFrom (nodes : List Node) (index : Nat) :
    (compileFrom assets index nodes).diagnostics =
      (nodes.zipIdx index).flatMap fun p => (compile assets [p.1]).diagnostics.map (renumbered p.2) := by
  induction nodes generalizing index with
  | nil => rfl
  | cons n rest ih =>
    rw [compileFrom, Compiled.diagnostics_append, ih, List.zipIdx_cons, List.flatMap_cons, (compile_singleton n).2,
      diagnostics_compile]

/-- What stands for a node that fails: nothing if it has no visible text, and otherwise one paragraph that tells
its text. -/
theorem fallback_tells (n : Node) :
    (n.fallback.blocks = [] ∧ ∀ text, n.text? = some text → Text.blank text = true) ∨
      ∃ text runs, n.text? = some text ∧ n.fallback.blocks = [.paragraph runs] ∧ Run.text runs = text := by
  unfold Node.fallback
  cases n.text? with
  | none => exact .inl ⟨rfl, nofun⟩
  | some text =>
    dsimp only
    split
    next hblank => exact .inl ⟨rfl, fun other hother => Option.some.inj hother ▸ hblank⟩
    next => exact .inr ⟨text, Run.ofText text, rfl, rfl, Run.text_ofText text⟩

/-- However many of its steps end in faults, a page comes out. Its blocks are those of its nodes alone, in order, and so
are its diagnostics but for the numbers of the nodes in them. A node that fails gives one diagnostic, and in its place
stands nothing or a paragraph of its plain text. -/
theorem compile_local (assets : Assets) (nodes : List Node) :
    (Stepwise.nodes assets 0 nodes).carryOut [] = (.ok (compile assets nodes).blocks, (compile assets nodes).diagnostics) ∧
      (compile assets nodes).blocks = nodes.flatMap (fun n => (compile assets [n]).blocks) ∧
      (compile assets nodes).diagnostics =
        nodes.zipIdx.flatMap (fun p => (compile assets [p.1]).diagnostics.map (renumbered p.2)) ∧
      ∀ n e, Stepwise.Fails assets n e → (compile assets [n]).diagnostics = [Stepwise.failure 0 n e] ∧
        (((compile assets [n]).blocks = [] ∧ ∀ text, n.text? = some text → Text.blank text = true) ∨
          ∃ text runs, n.text? = some text ∧ (compile assets [n]).blocks = [.paragraph runs] ∧ Run.text runs = text) := by
  refine ⟨Stepwise.nodes_gives nodes 0 [], ?_, diagnostics_compileFrom nodes 0, fun n e hfails => ?_⟩
  · rw [compile, blocks_compileFrom]
    exact List.flatMap_congr fun n _ => (compile_singleton n).1.symm
  · have herror := Stepwise.fails_iff.1 hfails
    rw [(compile_singleton n).1, (compile_singleton n).2, diagnostics_of_error herror,
      Node.blocks_compile_of_error herror]
    exact ⟨rfl, fallback_tells n⟩

/-- A page of a text, a heading of no level, a quote without spans and an image that no page can show. -/
def mixedPage : List Node :=
  [.paragraph (some [.plain "a"]), .heading .null (some [.plain "b"]), .quote none, .image "ftp://h/c" "d"]

/-- Two of its nodes fail, and only the first of these has a text to stand for it. -/
theorem mixedPage_local :
    Stepwise.Fails [] (.heading .null (some [.plain "b"])) (.wrongKind
        "int() argument must be a string, a bytes-like object or a real number, not 'NoneType'") ∧
      Stepwise.Fails [] (.quote none) (.wrongKind "'NoneType' object is not iterable") ∧
      (compile [] [.heading .null (some [.plain "b"])]).blocks = [.paragraph [{ content := "b" }]] ∧
      (compile [] [.quote none]).blocks = [] ∧
      (compile [] mixedPage).blocks =
        mixedPage.flatMap (fun n => (compile [] [n]).blocks) ∧
      (compile [] mixedPage).diagnostics =
        mixedPage.zipIdx.flatMap (fun p => (compile [] [p.1]).diagnostics.map (renumbered p.2)) := by
  have hheading : Stepwise.Fails [] (.heading .null (some [.plain "b"])) (.wrongKind
      "int() argument must be a string, a bytes-like object or a real number, not 'NoneType'") :=
    Stepwise.fails_iff.2 rfl
  have hquote : Stepwise.Fails [] (.quote none) (.wrongKind "'NoneType' object is not iterable") :=
    Stepwise.fails_iff.2 rfl
  obtain ⟨-, hblocks, hdiagnostics, hfails⟩ := compile_local [] mixedPage
  refine ⟨hheading, hquote, by decide +kernel, ?_, hblocks, hdiagnostics⟩
  obtain ⟨-, ⟨hnone, -⟩ | ⟨text, -, htext, -⟩⟩ := hfails _ _ hquote
  · exact hnone
  · cases htext

end WebClip.Page
