import WebClip.Article.OfFile
import WebClip.Proofs.Headings
import WebClip.Proofs.Sites
import WebClip.Proofs.Splitting
/-!
# Titles of markdown files

A markdown file without a title of one's own has the title that its first line behind a number sign and a space gives
it, or else its file's name. That line is looked for among the lines that any end of a line parts, and not in the blocks
of the document. It is a heading there if it begins a line of the document, and no code and no markup takes it as it is.
-/

namespace WebClip

theorem Utf8.decode?_toUTF8 (s : String) : decode? s.toUTF8 = some s := dif_pos s.isValidUTF8

namespace Article

open Text Markdown

/-- A line that gives a document its title, in its place among the lines that line feeds end. No line of the text before
it begins in the same way. -/
structure TitleLine (document title : String) where
  line : List Char
  front : List (List Char)
  before : List Char
  after : List Char
  back : List (List Char)
  lines_eq : linesOf document.toList = front ++ (before ++ (line ++ after)) :: back
  parts : Parts before after
  starts : startsWith ['#', ' '] line = true
  first : ∀ other ∈ lines (front.flatMap (· ++ ['\n']) ++ before), startsWith ['#', ' '] other = false
  names : title = String.ofList (trim (line.dropWhile (· == '#')))

namespace TitleLine

variable {document title : String} (l : TitleLine document title)

/-- Whether the line is read as a heading of the first level, between what is read of the lines before it and of those
behind it. -/
def Heads : Prop :=
  ∀ base nodes, Page.nodesOf base (read document) = .ok nodes →
    nodes = Page.Node.ofBlocks base (blocksIn document l.front) ++
      .heading (.int 1) (some (Page.Node.spansOf base (headingOf document ((l.line ++ l.after).drop 2)))) ::
        Page.Node.ofBlocks base (blocksIn document l.back)

/-- Whether code or markup that the lines before it leave open has the line in it as it is. -/
def Held : Prop :=
  ∃ (make : String → Block) (before later : List Block) (taken more : List Char),
    ((∃ info, make = .code info) ∨ make = .html) ∧
    blocksIn document l.front = before ++ [make (String.ofList taken)] ∧
    read document = before ++ make (String.ofList (taken ++ ((l.line ++ l.after) ++ '\n' :: more))) :: later

theorem lines_headingLine (hbefore : l.before = []) :
    ∃ text, l.line ++ l.after = Draft.headingLine text ∧
      linesOf document.toList = l.front ++ Draft.headingLine text :: l.back := by
  obtain ⟨text, hline⟩ := List.isPrefixOf_iff_prefix.1 l.starts
  have hall : l.line ++ l.after = Draft.headingLine (text ++ l.after) := by
    rw [← hline]
    rfl
  refine ⟨text ++ l.after, hall, ?_⟩
  rw [← hall, l.lines_eq, hbefore, List.nil_append]

theorem heads (hbefore : l.before = []) (hopen : Draft.leavesOpen l.front = false) : l.Heads := by
  obtain ⟨text, htext, hlines⟩ := l.lines_headingLine hbefore
  intro base nodes hnodes
  rw [htext]
  exact nodes_heading hlines hopen hnodes

theorem held (hbefore : l.before = []) (hopen : Draft.leavesOpen l.front = true) : l.Held := by
  obtain ⟨text, htext, hlines⟩ := l.lines_headingLine hbefore
  rw [Held, htext]
  exact read_held hlines hopen

end TitleLine

/-- Every title that a document without carriage returns gives itself is from a line of it. -/
theorem exists_titleLine {document title : String} (hreturn : '\r' ∉ document.toList)
    (h : titleIn? document.toList = some title) : Nonempty (TitleLine document title) := by
  obtain ⟨line, hfind, hnames⟩ := Option.map_eq_some_iff.1 h
  obtain ⟨hstarts, earlier, later, hlines, hearlier⟩ := List.find?_eq_some_iff_append.1 hfind
  obtain ⟨start, rest, hdocument, hstart, hparts, hline⟩ := exists_of_lines_eq hreturn hlines
  have hnotMem : '\n' ∉ line := fun hmem => absurd (hline '\n' hmem) (by decide)
  obtain ⟨front, before, after, back, hsplit, hbefore, hafter⟩ := splitOn_around hnotMem start rest
  refine ⟨⟨line, front, before, after, back, ?_, hparts.mono ⟨_, hbefore.symm⟩ hafter, hstarts, ?_, hnames.symm⟩⟩
  · rw [linesOf, unifyNewlines_of_notMem hreturn, hdocument, hsplit]
  · rw [← hbefore, hstart]
    exact fun other hother => by simpa using hearlier other hother

/-- What is read from a file that is no record. -/
theorem ofFile_markdown {path : String} {content : ByteArray} {text : String} (hpath : lower (ending path) ≠ ".json".toList)
    (hcontent : Utf8.decode? content = some text) (title url : String) {document given : String}
    (hdocument : String.ofList (unifyNewlines text.toList) = document)
    (hgiven : (titleIn? document.toList).getD "" = given) :
    ofFile path content title url = .ok (withOverrides title url
      { title := .text (if given.isEmpty then stem path else given), content := .text document }) := by
  have hjson : ¬(lower (ending path) == ".json".toList) = true := by simpa using hpath
  subst hgiven
  unfold ofFile ofText
  rw [hcontent]
  dsimp only
  rw [hdocument, if_neg hjson]
  rfl

/-- A markdown file is read as it is, with line feeds for the ends of its lines, and is named by its file unless a line
gives it a title. That line is a heading of the first level if it begins a line of the document and no code and no
markup is open there; if any is, the line is part of it. -/
theorem title_heads {path : String} {content : ByteArray} {text : String} (hpath : lower (ending path) ≠ ".json".toList)
    (hcontent : Utf8.decode? content = some text) (url : String) :
    ∃ article document, ofFile path content "" url = .ok article ∧ article.content = .text document ∧
      document.toList = unifyNewlines text.toList ∧
      ((article.title = .text (stem path) ∧ (titleIn? document.toList).getD "" = "") ∨
        ∃ title, article.title = .text title ∧ titleIn? document.toList = some title ∧ title ≠ "" ∧
          ∃ l : TitleLine document title,
            (l.before = [] → Draft.leavesOpen l.front = false → l.Heads) ∧
            (l.before = [] → Draft.leavesOpen l.front = true → l.Held)) := by
  have hunified : (String.ofList (unifyNewlines text.toList)).toList = unifyNewlines text.toList := String.toList_ofList
  generalize hdocument : String.ofList (unifyNewlines text.toList) = document at hunified
  have hreturn : '\r' ∉ document.toList := hunified ▸ notMem_unifyNewlines text.toList
  have hfile := ofFile_markdown hpath hcontent "" url hdocument rfl
  refine ⟨_, document, hfile, rfl, hunified, ?_⟩
  cases htitle : titleIn? document.toList with
  | none => exact .inl ⟨rfl, rfl⟩
  | some title =>
    by_cases hempty : title = ""
    · subst hempty
      exact .inl ⟨rfl, rfl⟩
    · have hcounts : ¬title.isEmpty = true := by simpa using hempty
      obtain ⟨l⟩ := exists_titleLine hreturn htitle
      refine .inr ⟨title, ?_, rfl, hempty, l, l.heads, l.held⟩
      exact congrArg Value.text (if_neg hcounts)

/-- A file that begins with a heading is named by it. -/
theorem note_titled :
    (lower (ending "note.md") ≠ ".json".toList ∧ Utf8.decode? "# T\n".toUTF8 = some "# T\n") ∧
      ∃ article, ofFile "note.md" "# T\n".toUTF8 "" "" = .ok article ∧ article.title = .text "T" ∧
        ∃ l : TitleLine "# T\n" "T", l.Heads := by
  have hpath : lower (ending "note.md") ≠ ".json".toList := by decide +kernel
  have hcontent : Utf8.decode? "# T\n".toUTF8 = some "# T\n" := Utf8.decode?_toUTF8 _
  have htitle : titleIn? "# T\n".toList = some "T" := by decide +kernel
  obtain ⟨article, document, hfile, -, hdocument, htitled⟩ := title_heads hpath hcontent ""
  obtain rfl : document = "# T\n" := String.toList_inj.1 (hdocument.trans (by decide +kernel))
  refine ⟨⟨hpath, hcontent⟩, article, hfile, ?_⟩
  rw [htitle] at htitled
  rcases htitled with ⟨-, hnone⟩ | ⟨title, hgiven, htitle, hne, l, hheads, -⟩
  · exact absurd hnone (by decide)
  · obtain rfl := Option.some.inj htitle
    have hlines : linesOf "# T\n".toList = [['#', ' ', 'T'], []] := by decide +kernel
    obtain ⟨text, hline⟩ := List.isPrefixOf_iff_prefix.1 l.starts
    have hplaced := hlines.symm.trans l.lines_eq
    rw [← hline] at hplaced
    obtain ⟨hfront, hplaced, -⟩ : l.front = [] ∧ l.before ++ '#' :: ' ' :: (text ++ l.after) = ['#', ' ', 'T'] ∧
        l.back = [[]] := by
      simpa [List.cons_eq_append_iff] using hplaced
    have hbefore : l.before = [] := by
      cases hlead : l.before with
      | nil => rfl
      | cons c rest =>
        rw [hlead, List.cons_append] at hplaced
        have hmem : '#' ∈ [' ', 'T'] := (List.cons.inj hplaced).2 ▸ List.mem_append_right rest List.mem_cons_self
        exact absurd hmem (by decide)
    refine ⟨hgiven, l, hheads hbefore ?_⟩
    rw [hfront]
    rfl

/-- A comment in code that is first behind a number sign and a space gives the title, though no heading is read. So does
what stands behind an end of a line that ends no line of the document. -/
theorem fencedComment_titled :
    ((ofFile "x.md" "```\n# comment\n```\n".toUTF8 "" "").map (·.title) = .ok (.text "comment") ∧
      ∃ nodes, Page.nodesOf none (read "```\n# comment\n```\n") = .ok nodes ∧
        nodes.map Page.Node.kindName = ["Code"]) ∧
    (ofFile "x.md" "a\u2028# b\n".toUTF8 "" "").map (·.title) = .ok (.text "b") ∧
      ∃ nodes, Page.nodesOf none (read "a\u2028# b\n") = .ok nodes ∧
        nodes.map Page.Node.kindName = ["Paragraph"] := by
  have hpath : lower (ending "x.md") ≠ ".json".toList := by decide +kernel
  have hfenced : String.ofList (unifyNewlines "```\n# comment\n```\n".toList) = "```\n# comment\n```\n" := by decide +kernel
  have hcomment : (titleIn? "```\n# comment\n```\n".toList).getD "" = "comment" := by decide +kernel
  have hparted : String.ofList (unifyNewlines "a\u2028# b\n".toList) = "a\u2028# b\n" := by decide +kernel
  have hpart : (titleIn? "a\u2028# b\n".toList).getD "" = "b" := by decide +kernel
  refine ⟨⟨?_, _, Page.nodesOf_of_readable ?_ none, ?_⟩, ?_, _, Page.nodesOf_of_readable ?_ none, ?_⟩
  · rw [ofFile_markdown hpath (Utf8.decode?_toUTF8 _) "" "" hfenced hcomment]
    rfl
  · decide +kernel
  · decide +kernel
  · rw [ofFile_markdown hpath (Utf8.decode?_toUTF8 _) "" "" hparted hpart]
    rfl
  · decide +kernel
  · decide +kernel

end Article

end WebClip
