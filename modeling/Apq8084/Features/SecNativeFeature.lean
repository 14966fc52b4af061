import Apq8084.Lib.Chunking
import Apq8084.Lib.Decimal
import Mathlib.Logic.Function.Basic

/-! The feature files as libsecnativefeature reads them: the handlers that expat calls, and the
map they build. -/
namespace SecNativeFeature

open Chunking

abbrev Name := List Char
abbrev Text := List Char

/-- A `std::map` of strings, by what `find` gives for each key. -/
abbrev FeatureMap := Name → Option Text

def FeatureMap.erase (m : FeatureMap) (k : Name) : FeatureMap := Function.update m k none

/-- `insert` leaves an entry that is there as it is; the hint changes nothing. -/
def FeatureMap.insert (m : FeatureMap) (k : Name) (v : Text) : FeatureMap :=
  if (m k).isSome then m else Function.update m k (some v)

structure ParserUserData where
  curr_name : Name
  pFeatures : FeatureMap
  depth : Int

def charDataHandler (pData : ParserUserData) (s : Text) : ParserUserData :=
  if pData.curr_name ≠ [] then
    match pData.pFeatures pData.curr_name with
    | some old =>
      { pData with pFeatures :=
          (pData.pFeatures.erase pData.curr_name).insert pData.curr_name (old ++ s) }
    | none => { pData with pFeatures := pData.pFeatures.insert pData.curr_name s }
  else pData

def startElement (pData : ParserUserData) (name : Name) : ParserUserData :=
  { pData with curr_name := name, depth := pData.depth + 1 }

def endElement (pData : ParserUserData) (_name : Name) : ParserUserData :=
  { pData with curr_name := [], depth := pData.depth - 1 }

inductive Tag where
  | start (name : Name)
  | stop (name : Name)

/-- What expat reports: a tag, or a piece of character data. -/
abbrev XmlEvent := Event Tag Char

def handle (pData : ParserUserData) : XmlEvent → ParserUserData
  | .mark (.start name) => startElement pData name
  | .mark (.stop name) => endElement pData name
  | .data s => charDataHandler pData s

def ParserUserData.initial : ParserUserData :=
  { curr_name := [], pFeatures := fun _ => none, depth := 0 }

/-- `_loadFeature` on a file of which expat reports these events. -/
def loadFeature (events : List XmlEvent) : FeatureMap :=
  (events.foldl handle ParserUserData.initial).pFeatures

/-! ### The values that are asked for -/

/-- `getEnableStatus(tag, defaultValue)`; without a default it is `false`. -/
def getEnableStatus (m : FeatureMap) (tag : Name) (defaultValue : Bool) : Bool :=
  match m tag with
  | none => defaultValue
  | some v => if v = "true".toList ∨ v = "TRUE".toList then true else defaultValue

/-- `getString(tag, defaultValue)`; without a default it is the empty text. -/
def getString (m : FeatureMap) (tag : Name) (defaultValue : Text) : Text :=
  (m tag).getD defaultValue

/-! ### Documents -/

/-- What stands between the two tags of an element. -/
inductive Content where
  | nil
  | text (s : Text) (rest : Content)
  | element (name : Name) (content : Content) (rest : Content)

namespace Content

def StartsWithText : Content → Prop
  | text _ _ => True
  | _ => False

/-- Names and texts are not empty, and no text follows a text. -/
def WellFormed : Content → Prop
  | nil => True
  | text s rest => s ≠ [] ∧ ¬rest.StartsWithText ∧ rest.WellFormed
  | element name content rest => name ≠ [] ∧ content.WellFormed ∧ rest.WellFormed

/-- The events of the content, each maximal text in one piece. -/
def events : Content → List XmlEvent
  | nil => []
  | text s rest => .data s :: rest.events
  | element name content rest =>
    .mark (.start name) :: (content.events ++ .mark (.stop name) :: rest.events)

/-- The elements in the order of their start tags. -/
def elements : Content → List (Name × Content)
  | nil => []
  | text _ rest => rest.elements
  | element name content rest => (name, content) :: (content.elements ++ rest.elements)

/-- The text of an element without children. -/
def leafText : Content → Option Text
  | nil => some []
  | text s nil => some s
  | _ => none

end Content

/-- A document is one element. -/
structure Document where
  root : Name
  content : Content
  root_ne : root ≠ []
  wellFormed : content.WellFormed

namespace Document

def whole (d : Document) : Content := .element d.root d.content .nil

/-- Ways in which expat may report the document. -/
def Reports (d : Document) (cs : List XmlEvent) : Prop := Splits d.whole.events cs

/-- The tag occurs once, as a leaf with the text `s`. -/
def OnlyLeaf (d : Document) (tag : Name) (s : Text) : Prop :=
  ∃ content : Content, d.whole.elements.filter (fun e => e.1 == tag) = [(tag, content)] ∧
    content.leafText = some s

end Document

variable {p : ParserUserData} {tag : Name} {s : Text} {c : Content}

/-! ### The handler of character data -/

theorem charDataHandler_outside (h : p.curr_name = []) : charDataHandler p s = p := by
  unfold charDataHandler
  exact if_neg (not_not_intro h)

/-- The entry of `k` with `s` behind its text. -/
def FeatureMap.extend (m : FeatureMap) (k : Name) (s : Text) : FeatureMap :=
  Function.update m k (some ((m k).getD [] ++ s))

/-- Inside an element the data is appended to the entry of its name. -/
theorem charDataHandler_inside (h : p.curr_name ≠ []) :
    charDataHandler p s = { p with pFeatures := p.pFeatures.extend p.curr_name s } := by
  unfold charDataHandler
  rw [if_pos h]
  cases hm : p.pFeatures p.curr_name with
  | none => simp [FeatureMap.insert, FeatureMap.extend, hm]
  | some old => simp [FeatureMap.insert, FeatureMap.erase, FeatureMap.extend, hm]

theorem handle_additive : Additive handle := by
  intro p s t
  by_cases h : p.curr_name = []
  · simp only [handle, charDataHandler_outside h]
  · simp only [handle]
    have h' : (charDataHandler p s).curr_name ≠ [] := by
      rw [charDataHandler_inside h]
      exact h
    rw [charDataHandler_inside h', charDataHandler_inside h, charDataHandler_inside h]
    simp [FeatureMap.extend]

/-- Data inside an element leaves the entries of the other names. -/
theorem charDataHandler_other (htag : p.curr_name ≠ tag) :
    (charDataHandler p s).pFeatures tag = p.pFeatures tag := by
  by_cases h : p.curr_name = []
  · rw [charDataHandler_outside h]
  · rw [charDataHandler_inside h]
    exact Function.update_of_ne htag.symm _ _

theorem charDataHandler_curr_name : (charDataHandler p s).curr_name = p.curr_name := by
  by_cases h : p.curr_name = []
  · rw [charDataHandler_outside h]
  · rw [charDataHandler_inside h]

/-! ### The entry of one tag -/

/-- The elements named `tag`, in order. -/
def Content.named (tag : Name) (c : Content) : List (Name × Content) :=
  c.elements.filter (fun e => e.1 == tag)

theorem Content.named_element (name : Name) (content rest : Content) :
    (Content.element name content rest).named tag =
      (if name = tag then [(name, content)] else []) ++ (content.named tag ++ rest.named tag) := by
  by_cases h : name = tag <;> simp [named, elements, h]

/-- Content without the tag leaves the entry of the tag. -/
theorem foldl_events_other (hc : c.named tag = []) (htag : tag ≠ []) (hp : p.curr_name ≠ tag) :
    (c.events.foldl handle p).pFeatures tag = p.pFeatures tag ∧
      (c.events.foldl handle p).curr_name ≠ tag := by
  induction c generalizing p with
  | nil => exact ⟨rfl, hp⟩
  | text s rest ih =>
    have hp' : (charDataHandler p s).curr_name ≠ tag := by
      rw [charDataHandler_curr_name]
      exact hp
    obtain ⟨hfind, hcurr⟩ := ih hc hp'
    exact ⟨hfind.trans (charDataHandler_other hp), hcurr⟩
  | element name content rest ihc ihr =>
    rw [Content.named_element] at hc
    simp only [List.append_eq_nil_iff, ite_eq_right_iff, List.cons_ne_self, imp_false] at hc
    obtain ⟨hname, hcontent, hrest⟩ := hc
    have hstart := ihc hcontent (p := startElement p name) hname
    have hstop := ihr hrest (htag.symm)
      (p := endElement (content.events.foldl handle (startElement p name)) name)
    simp only [Content.events, List.foldl_cons, List.foldl_append, handle]
    exact ⟨hstop.1.trans hstart.1, hstop.2⟩

/-- What a leaf leaves as the entry of its tag: nothing where it has no text. -/
def entryOf (s : Text) : Option Text := if s = [] then none else some s

/-- A leaf under a tag without an entry makes its text the entry. -/
theorem foldl_leaf (hleaf : c.leafText = some s) (hc : c.WellFormed) (hcurr : p.curr_name = tag)
    (htag : tag ≠ []) (hp : p.pFeatures tag = none) :
    (c.events.foldl handle p).pFeatures tag = entryOf s := by
  cases c with
  | nil =>
    cases hleaf
    exact hp
  | text t rest =>
    cases rest with
    | nil =>
      cases hleaf
      have hs : s ≠ [] := hc.1
      have hcurr' : p.curr_name ≠ [] := hcurr ▸ htag
      simp only [Content.events, List.foldl_cons, List.foldl_nil, handle,
        charDataHandler_inside hcurr', hcurr, FeatureMap.extend, Function.update_self, hp]
      exact (if_neg hs).symm
    | text t' rest => cases hleaf
    | element name content rest => cases hleaf
  | element name content rest => cases hleaf

/-- The only element of a tag, a leaf, decides the entry of the tag. -/
theorem foldl_onlyLeaf {content : Content} (hc : c.WellFormed)
    (honly : c.named tag = [(tag, content)]) (hleaf : content.leafText = some s) (htag : tag ≠ [])
    (hcurr : p.curr_name ≠ tag) (hp : p.pFeatures tag = none) :
    (c.events.foldl handle p).pFeatures tag = entryOf s := by
  induction c generalizing p with
  | nil => cases honly
  | text t rest ih =>
    refine ih hc.2.2 honly ?_ ?_
    · simpa only [handle, charDataHandler_curr_name] using hcurr
    · simpa only [handle, charDataHandler_other hcurr] using hp
  | element name inner rest ihc ihr =>
    obtain ⟨-, hinner, hrest⟩ := hc
    rw [Content.named_element] at honly
    simp only [Content.events, List.foldl_cons, List.foldl_append, handle]
    by_cases hname : name = tag
    · subst hname
      simp only [if_true, List.singleton_append, List.cons.injEq, List.append_eq_nil_iff,
        Prod.mk.injEq, true_and] at honly
      obtain ⟨rfl, -, hnone⟩ := honly
      have hstop := foldl_events_other hnone htag htag.symm
        (p := endElement (inner.events.foldl handle (startElement p name)) name)
      exact hstop.1.trans (foldl_leaf hleaf hinner rfl htag hp)
    · rw [if_neg hname, List.nil_append, List.append_eq_singleton_iff] at honly
      rcases honly with ⟨hnone, honly⟩ | ⟨honly, hnone⟩
      · have hstart := foldl_events_other hnone htag (p := startElement p name) hname
        exact ihr hrest honly htag.symm (hstart.1.trans hp)
      · have hstop := foldl_events_other hnone htag htag.symm
          (p := endElement (inner.events.foldl handle (startElement p name)) name)
        exact hstop.1.trans (ihc hinner honly hname hp)

theorem Content.WellFormed.name_ne {e : Name × Content} (hc : c.WellFormed) (he : e ∈ c.elements) :
    e.1 ≠ [] := by
  induction c with
  | nil => cases he
  | text t rest ih => exact ih hc.2.2 he
  | element name inner rest ihc ihr =>
    rcases List.mem_cons.mp he with rfl | he
    · exact hc.1
    · rcases List.mem_append.mp he with he | he
      · exact ihc hc.2.1 he
      · exact ihr hc.2.2 he

theorem Document.whole_wellFormed (d : Document) : d.whole.WellFormed :=
  ⟨d.root_ne, d.wellFormed, trivial⟩

/-- However expat cuts the texts, the map is that of the document, and a tag that occurs once as
a leaf has its text as entry, unless the text is empty. -/
theorem loadFeature_reports (d : Document) (cs ds : List XmlEvent) (hcs : d.Reports cs)
    (hds : d.Reports ds) :
    loadFeature cs = loadFeature ds ∧
      ∀ tag s, d.OnlyLeaf tag s →
        (s ≠ [] → loadFeature cs tag = some s) ∧
          (s = [] → loadFeature cs tag = none ∧ getString (loadFeature cs) tag [] = s) := by
  have hload : ∀ es, d.Reports es → loadFeature es = loadFeature d.whole.events := by
    intro es hes
    exact congrArg ParserUserData.pFeatures (hes.foldl_eq handle_additive)
  refine ⟨(hload cs hcs).trans (hload ds hds).symm, ?_⟩
  rintro tag s ⟨content, honly, hleaf⟩
  have hmem : (tag, content) ∈ d.whole.elements := by
    have : (tag, content) ∈ d.whole.elements.filter (fun e => e.1 == tag) := by
      rw [honly]
      exact List.mem_singleton_self _
    exact (List.mem_filter.mp this).1
  have htag : tag ≠ [] := d.whole_wellFormed.name_ne hmem
  have hentry : loadFeature cs tag = entryOf s := by
    rw [hload cs hcs]
    exact foldl_onlyLeaf d.whole_wellFormed honly hleaf htag htag.symm rfl
  constructor
  · intro hs
    exact hentry.trans (if_neg hs)
  · intro hs
    have hnone : loadFeature cs tag = none := hentry.trans (if_pos hs)
    refine ⟨hnone, ?_⟩
    rw [getString, hnone, hs]
    rfl

/-- `<f>x<a>on</a></f>` -/
def sampleDocument : Document where
  root := ['f']
  content := .text ['x'] (.element ['a'] (.text ['o', 'n'] .nil) .nil)
  root_ne := List.cons_ne_nil _ _
  wellFormed := ⟨List.cons_ne_nil _ _, not_false, List.cons_ne_nil _ _,
    ⟨List.cons_ne_nil _ _, not_false, trivial⟩, trivial⟩

def sampleEnd : List XmlEvent := [.mark (.stop ['a']), .mark (.stop ['f'])]

def sampleReport (pieces : List Text) : List XmlEvent :=
  .mark (.start ['f']) :: .data ['x'] :: .mark (.start ['a']) ::
    (pieces.map .data ++ sampleEnd)

theorem sampleDocument_reports {pieces : List Text} (hp : pieces ≠ [])
    (hne : ∀ p ∈ pieces, p ≠ []) (h : pieces.flatten = ['o', 'n']) :
    sampleDocument.Reports (sampleReport pieces) := by
  have hx : ∀ p ∈ [['x']], p ≠ [] := by
    intro p hx
    rcases List.mem_singleton.mp hx with rfl
    exact List.cons_ne_nil _ _
  have hclose : Splits sampleEnd sampleEnd := .mark _ (.mark _ .nil)
  have htext := Splits.data hp hne hclose
  rw [h] at htext
  have hx' := Splits.data (List.cons_ne_nil ['x'] []) hx (.mark (.start ['a']) htext)
  exact .mark _ hx'

/-- One report gives the text of `a` in one piece, the other letter by letter. -/
theorem loadFeature_reports_sample :
    loadFeature (sampleReport [['o'], ['n']]) = loadFeature (sampleReport [['o', 'n']]) ∧
      loadFeature (sampleReport [['o'], ['n']]) ['a'] = some ['o', 'n'] := by
  have hletters := @sampleDocument_reports [['o'], ['n']] (by decide) (by decide) rfl
  have hwhole := @sampleDocument_reports [['o', 'n']] (by decide) (by decide) rfl
  obtain ⟨heq, hleaf⟩ := loadFeature_reports sampleDocument _ _ hletters hwhole
  exact ⟨heq, (hleaf ['a'] ['o', 'n'] ⟨.text ['o', 'n'] .nil, rfl, rfl⟩).1 (by decide)⟩

/-- The leaf of `<a></a>` has no entry, so that its text is not what the tag is mapped to. -/
theorem emptyLeaf_no_entry :
    ¬∀ (d : Document) (cs ds : List XmlEvent), d.Reports cs → d.Reports ds →
      loadFeature cs = loadFeature ds ∧
        ∀ tag s, d.OnlyLeaf tag s → loadFeature cs tag = some s := by
  intro h
  let d : Document :=
    { root := ['a'], content := .nil, root_ne := List.cons_ne_nil _ _, wellFormed := trivial }
  have hreports : d.Reports [.mark (.start ['a']), .mark (.stop ['a'])] := .mark _ (.mark _ .nil)
  have hentry := (h d _ _ hreports hreports).2 ['a'] [] ⟨.nil, rfl, rfl⟩
  exact absurd hentry (by decide)

end SecNativeFeature
