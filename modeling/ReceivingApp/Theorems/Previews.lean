import ReceivingApp.Adapters.Preview
import ReceivingApp.Lib.Hoare
import ReceivingApp.Theorems.Labels

open Commands Interaction

namespace ReceivingApp.Html

open Zpl (text fieldLine)

-- ### Reading HTML

-- The character references that `html.escape` writes are read back. Any other text stays as it is.
def unescape : List Char → List Char
  | '&' :: 'a' :: 'm' :: 'p' :: ';' :: l        => '&' :: unescape l
  | '&' :: 'l' :: 't' :: ';' :: l               => '<' :: unescape l
  | '&' :: 'g' :: 't' :: ';' :: l               => '>' :: unescape l
  | '&' :: 'q' :: 'u' :: 'o' :: 't' :: ';' :: l => doubleQuote :: unescape l
  | '&' :: '#' :: 'x' :: '2' :: '7' :: ';' :: l => singleQuote :: unescape l
  | c :: l => c :: unescape l
  | []     => []

def isTagOpen (c : Char) : Bool :=
  c = '<'

-- A tag, from after its `<` up to its `>`, and the text after it.
def readTag (l : List Char) : String × String :=
  (String.ofList (l.takeWhile (· ≠ '>')),
    String.ofList (unescape ((l.dropWhile (· ≠ '>')).drop 1)))

def htmlTags (html : String) : List (String × String) :=
  (commands isTagOpen html.toList).map fun c => readTag c.2

-- ### Escaped texts

def specialChars : List Char :=
  ['&', '<', '>', doubleQuote, singleQuote]

def escapeChar (c : Char) : List Char :=
  if c = '&' then "&amp;".toList
  else if c = '<' then "&lt;".toList
  else if c = '>' then "&gt;".toList
  else if c = doubleQuote then "&quot;".toList
  else if c = singleQuote then "&#x27;".toList
  else [c]

theorem escapeChar_of_notMem {c : Char} (h : c ∉ specialChars) : escapeChar c = [c] := by
  simp only [specialChars, List.mem_cons, List.not_mem_nil, or_false, not_or] at h
  simp only [escapeChar, h, ↓reduceIte]

-- One replacement after the other comes to one replacement of each character.
theorem toList_escape (s : String) : (escape s).toList = s.toList.flatMap escapeChar := by
  simp only [escape, replaceChar, String.toList_ofList, List.flatMap_assoc]
  refine List.flatMap_congr fun c hmem => ?_
  clear hmem
  by_cases hc : c ∈ specialChars
  · simp only [specialChars, List.mem_cons, List.not_mem_nil, or_false] at hc
    rcases hc with rfl | rfl | rfl | rfl | rfl
    all_goals decide
  · rw [escapeChar_of_notMem hc]
    simp only [specialChars, List.mem_cons, List.not_mem_nil, or_false, not_or] at hc
    simp only [hc, ↓reduceIte, List.flatMap_cons, List.flatMap_nil, List.append_nil]

theorem unescape_cons {c : Char} (h : c ≠ '&') (l : List Char) :
    unescape (c :: l) = c :: unescape l := by
  rw [unescape]
  all_goals
    intro _ hc
    exact absurd hc h

theorem unescape_escapeChar (c : Char) (l : List Char) :
    unescape (escapeChar c ++ l) = c :: unescape l := by
  unfold escapeChar
  split_ifs with h
  case neg => exact unescape_cons h l
  all_goals
    subst c
    rfl

theorem unescape_escape (s : String) (l : List Char) :
    unescape ((escape s).toList ++ l) = s.toList ++ unescape l := by
  rw [toList_escape]
  generalize s.toList = cs
  induction cs
  case nil => rfl
  case cons c cs ih =>
    rw [List.flatMap_cons, List.append_assoc, unescape_escapeChar, ih]
    rfl

theorem not_isTagOpen_escapeChar (c : Char) : ∀ c' ∈ escapeChar c, isTagOpen c' = false := by
  intro c' hc'
  by_cases hc : c ∈ specialChars
  · have hall : (specialChars.all fun c => (escapeChar c).all fun c' => !isTagOpen c') = true := by
      decide
    have hnot := List.all_eq_true.mp (List.all_eq_true.mp hall c hc) c' hc'
    simpa using hnot
  · rw [escapeChar_of_notMem hc] at hc'
    simp only [specialChars, List.mem_cons, not_or] at hc
    rw [List.mem_singleton.mp hc']
    exact decide_eq_false hc.2.1

theorem not_isTagOpen_escape (s : String) : ∀ c ∈ (escape s).toList, isTagOpen c = false := by
  intro c hc
  rw [toList_escape] at hc
  obtain ⟨c', -, hc⟩ := List.mem_flatMap.mp hc
  exact not_isTagOpen_escapeChar c' c hc

theorem escape_of_plain {s : String} (h : ∀ c ∈ s.toList, c ∉ specialChars) : escape s = s := by
  rw [← String.toList_inj, toList_escape]
  calc
    s.toList.flatMap escapeChar = s.toList.flatMap fun c => [c] :=
      List.flatMap_congr fun c hc => escapeChar_of_notMem (h c hc)
    _ = s.toList := List.flatMap_singleton' s.toList

-- A number has no character to escape.
theorem escape_toString (n : Int) : escape (toString n) = toString n := by
  have hdigits (m : Nat) : ∀ c ∈ Nat.toDigits 10 m, c ∉ specialChars := by
    intro c hc hs
    have hall : (specialChars.all fun c => !c.isDigit) = true := by decide
    have hd := Nat.isDigit_of_mem_toDigits (by decide) (by decide) hc
    have hnot := List.all_eq_true.mp hall c hs
    rw [hd] at hnot
    cases hnot
  refine escape_of_plain ?_
  cases n
  case ofNat m   => simpa [toString, Int.repr, Nat.repr] using hdigits m
  case negSucc m =>
    have hs : (toString (Int.negSucc m)).toList = '-' :: Nat.toDigits 10 (m + 1) := by
      simp [toString, Int.repr, Nat.repr]
    rw [hs]
    exact List.forall_mem_cons.mpr ⟨by decide, hdigits (m + 1)⟩

-- ### Reading a format of a document

section Formats

variable {ι : Type} {v w : ι → List Char}

-- The name of a tag with its attributes has no slots.
def splitTag : Format Char ι → Option (List Char × Format Char ι)
  | []          => some ([], [])
  | .inl c :: f => if c = '>' then some ([], f) else (splitTag f).map (Prod.map (c :: ·) id)
  | .inr _ :: _ => none

def beginsReference : Char ⊕ ι → Bool
  | .inl c => c = '&'
  | .inr _ => false

-- No reference is written out.
def readTagFormat (f : Format Char ι) : Option (String × Format Char ι) :=
  (splitTag f).bind fun t =>
    if t.2.any beginsReference then none else some (String.ofList t.1, t.2)

def outline (f : Format Char ι) : Option (List (String × Format Char ι)) :=
  (formatCommands isTagOpen f).mapM fun c => readTagFormat c.2

theorem readTag_fill_of_splitTag {f text : Format Char ι} {name : List Char}
    (h : splitTag f = some (name, text)) :
    readTag (fill v f) = (String.ofList name, String.ofList (unescape (fill v text))) := by
  suffices htag : (fill v f).takeWhile (· ≠ '>') = name ∧
      ((fill v f).dropWhile (· ≠ '>')).drop 1 = fill v text by
    rw [readTag, htag.1, htag.2]
  induction f generalizing name
  case nil =>
    cases h
    exact ⟨rfl, rfl⟩
  case cons x f ih =>
    cases x
    case inr i => cases h
    case inl c =>
      rw [splitTag] at h
      split at h
      case isTrue hc =>
        cases h
        simp [hc]
      case isFalse hc =>
        obtain ⟨⟨name', text'⟩, hf, ⟨⟩⟩ := Option.map_eq_some_iff.mp h
        simpa [hc] using ih hf

-- What follows on a slot does not become a part of a reference.
theorem unescape_fill (h : ∀ i l, unescape (v i ++ l) = w i ++ unescape l) {f : Format Char ι}
    (hf : f.any beginsReference = false) : unescape (fill v f) = fill w f := by
  induction f
  case nil => rfl
  case cons x f ih =>
    rw [List.any_cons, Bool.or_eq_false_iff] at hf
    cases x
    case inl c => rw [fill_inl, unescape_cons (of_decide_eq_false hf.1), ih hf.2, fill_inl]
    case inr i => rw [fill_inr, h, ih hf.2, fill_inr]

theorem readTag_fill (h : ∀ i l, unescape (v i ++ l) = w i ++ unescape l) {f : Format Char ι}
    {t : String × Format Char ι} (ht : readTagFormat f = some t) :
    readTag (fill v f) = (t.1, String.ofList (fill w t.2)) := by
  obtain ⟨⟨name, text⟩, hsplit, hread⟩ := Option.bind_eq_some_iff.mp ht
  dsimp only at hread
  split at hread
  case isTrue => cases hread
  case isFalse htext =>
    cases hread
    rw [readTag_fill_of_splitTag hsplit, unescape_fill h (Bool.eq_false_iff.mpr htext)]

theorem htmlTags_of_format {html : String} {f : Format Char ι}
    {tags : List (String × Format Char ι)} (hhtml : html.toList = fill v f)
    (hv : ∀ i, ∀ c ∈ v i, isTagOpen c = false)
    (h : ∀ i l, unescape (v i ++ l) = w i ++ unescape l) (hf : outline f = some tags) :
    htmlTags html = tags.map fun t => (t.1, String.ofList (fill w t.2)) := by
  rw [htmlTags, hhtml, commands_fill hv, List.map_map]
  exact map_eq_of_mapM_eq_some (readTag_fill h) hf

end Formats

-- ### Documents

-- The values that stand on a page for a record.
inductive PageDatum
  | purchaseOrder
  | model
  | inventoryId
  | serial
  | brand
  | vendor
  | tags
  | status
  | truck
  | stop
  | salesOrder
  | size
  | quantity
  | timestamp
  deriving DecidableEq

def pageFormat : Format Char PageDatum := List.flatten [
  text "<!DOCTYPE html>\n",
  text "<html><head><meta charset='utf-8'>",
  text "<title>Receiving Label</title></head><body>\n",
  text "<h1>Receiving Label</h1><dl>\n",
  fieldLine "<dt>PO</dt><dd>" .purchaseOrder "</dd>\n",
  fieldLine "<dt>Model</dt><dd>" .model "</dd>\n",
  fieldLine "<dt>Inventory ID</dt><dd>" .inventoryId "</dd>\n",
  fieldLine "<dt>Serial</dt><dd>" .serial "</dd>\n",
  fieldLine "<dt>Brand</dt><dd>" .brand "</dd>\n",
  fieldLine "<dt>Vendor</dt><dd>" .vendor "</dd>\n",
  fieldLine "<dt>Tags</dt><dd>" .tags "</dd>\n",
  fieldLine "<dt>Status</dt><dd>" .status "</dd>\n",
  fieldLine "<dt>Truck</dt><dd>" .truck "</dd>\n",
  fieldLine "<dt>Stop</dt><dd>" .stop "</dd>\n",
  fieldLine "<dt>Sales Order</dt><dd>" .salesOrder "</dd>\n",
  fieldLine "<dt>Size</dt><dd>" .size "</dd>\n",
  fieldLine "<dt>Qty</dt><dd>" .quantity "</dd>\n",
  fieldLine "<dt>Timestamp</dt><dd>" .timestamp "</dd>\n",
  text "</dl></body></html>"
]

variable (str : PyVal → String)

def pageValue (record : ReceivingRecord) : PageDatum → String
  | .purchaseOrder => record.purchaseOrder
  | .model         => record.modelNumber
  | .inventoryId   => record.inventoryId
  | .serial        => record.serial
  | .brand         => record.brand
  | .vendor        => record.vendor
  | .tags          => record.tags
  | .status        => record.matchStatus.value
  | .truck         => record.truck
  | .stop          => record.stop
  | .salesOrder    => record.salesOrder
  | .size          =>
    str (record.productSize.getD "w" (.int 0)) ++ " x " ++
      str (record.productSize.getD "d" (.int 0)) ++ " x " ++
      str (record.productSize.getD "h" (.int 0))
  | .quantity      => toString record.quantity
  | .timestamp     => record.timestamp

theorem toList_renderLabel (record : ReceivingRecord) :
    (renderLabel str record).toList =
      fill (fun i => (escape (pageValue str record i)).toList) pageFormat := by
  unfold renderLabel pageFormat
  simp only [List.flatten_cons, List.flatten_nil, fill_append, Zpl.fill_text, Zpl.fill_fieldLine,
    pageValue, escape_toString, String.toList_append, String.ofList_toList, List.append_assoc,
    List.append_nil]

def poPageFormat : Format Char Unit := List.flatten [
  text "<!DOCTYPE html><html><head><meta charset='utf-8'>",
  text "<title>PO Label</title></head><body>",
  fieldLine "<h1>Purchase Order</h1><p style='font-size:3em'>" () "</p>",
  fieldLine "<p>Barcode: PO:" () "</p>",
  text "</body></html>"
]

theorem toList_renderPoLabel (poNumber : String) :
    (renderPoLabel poNumber).toList = fill (fun _ => (escape poNumber).toList) poPageFormat := by
  unfold renderPoLabel poPageFormat
  simp only [List.flatten_cons, List.flatten_nil, fill_append, Zpl.fill_text, Zpl.fill_fieldLine,
    String.toList_append, String.ofList_toList, List.append_assoc, List.append_nil]

-- ### Pages

-- A tag with the text after it, which may be the format of a text.
section Tags

variable {δ : Type} (txt : String → δ)

def headTags (title after : String) : List (String × δ) := [
  ("!DOCTYPE html", txt after),
  ("html", txt ""), ("head", txt ""), ("meta charset='utf-8'", txt ""),
  ("title", txt title), ("/title", txt ""), ("/head", txt ""), ("body", txt after)
]

def definitionTags (term : String) (value : δ) : List (String × δ) :=
  [("dt", txt term), ("/dt", txt ""), ("dd", value), ("/dd", txt "\n")]

def terms : List (String × PageDatum) := [
  ("PO", .purchaseOrder),
  ("Model", .model),
  ("Inventory ID", .inventoryId),
  ("Serial", .serial),
  ("Brand", .brand),
  ("Vendor", .vendor),
  ("Tags", .tags),
  ("Status", .status),
  ("Truck", .truck),
  ("Stop", .stop),
  ("Sales Order", .salesOrder),
  ("Size", .size),
  ("Qty", .quantity),
  ("Timestamp", .timestamp)
]

def pageTags (value : PageDatum → δ) : List (String × δ) :=
  headTags txt "Receiving Label" "\n" ++
  [("h1", txt "Receiving Label"), ("/h1", txt ""), ("dl", txt "\n")] ++
  terms.flatMap (fun d => definitionTags txt d.1 (value d.2)) ++
  [("/dl", txt ""), ("/body", txt ""), ("/html", txt "")]

def poPageTags (poNumber barcode : δ) : List (String × δ) :=
  headTags txt "PO Label" "" ++
  [("h1", txt "Purchase Order"), ("/h1", txt ""), ("p style='font-size:3em'", poNumber),
    ("/p", txt ""), ("p", barcode), ("/p", txt ""), ("/body", txt ""), ("/html", txt "")]

end Tags

theorem outline_pageFormat : outline pageFormat = some (pageTags text fun d => [.inr d]) := by
  decide +kernel

theorem outline_poPageFormat :
    outline poPageFormat = some (poPageTags text [.inr ()] (text "Barcode: PO:" ++ [.inr ()])) := by
  decide +kernel

-- What is shown can change no tag of a page. It is the text after one, as it is in the record.
theorem htmlTags_renderLabel (record : ReceivingRecord) :
    htmlTags (renderLabel str record) = pageTags id (pageValue str record) := by
  rw [htmlTags_of_format (toList_renderLabel str record) (fun i => not_isTagOpen_escape _)
    (fun i l => unescape_escape _ l) outline_pageFormat]
  simp only [pageTags, headTags, definitionTags, terms, List.map_append, List.map_cons,
    List.map_nil, List.flatMap_cons, List.flatMap_nil, fill_inr, fill_nil, List.append_nil,
    Zpl.fill_text, String.ofList_toList, id]

theorem htmlTags_renderPoLabel (poNumber : String) :
    htmlTags (renderPoLabel poNumber) = poPageTags id poNumber ("Barcode: PO:" ++ poNumber) := by
  rw [htmlTags_of_format (toList_renderPoLabel poNumber) (fun i => not_isTagOpen_escape _)
    (fun i l => unescape_escape _ l) outline_poPageFormat]
  simp only [poPageTags, headTags, List.map_append, List.map_cons, List.map_nil, fill_append,
    fill_inr, fill_nil, List.append_nil, Zpl.fill_text, String.ofList_append,
    String.ofList_toList, id]

end ReceivingApp.Html

namespace ReceivingApp.PreviewPrinter

open Interaction.Program Html

-- ### Previews

-- A call of the printer.
inductive Preview
  | label (record : ReceivingRecord)
  | poLabel (poNumber : String)

variable (fmt : PyExc → String) (str : PyVal → String)

def Preview.program : Preview → PreviewM Unit
  | .label record     => printLabel fmt str record
  | .poLabel poNumber => printPoLabel fmt poNumber

def Preview.failed : Preview → String
  | .label _   => "preview label failed — "
  | .poLabel _ => "preview PO label failed — "

-- The tags of the page that a preview is to show, with the texts after them.
def Preview.page : Preview → List (String × String)
  | .label record     => pageTags id (pageValue str record)
  | .poLabel poNumber => poPageTags id poNumber ("Barcode: PO:" ++ poNumber)

-- What is written is a new file, with the given content.
def Written (w : PreviewWorld) (html uri : String) (w' : PreviewWorld) : Prop :=
  uri ∉ w.files.map Prod.fst ∧ w'.files = w.files ++ [(uri, html)]

-- Its page is opened after those that were before, unless no browser could be launched.
def Shown (w : PreviewWorld) (html : String) (w' : PreviewWorld) : Prop :=
  ∃ uri, Written w html uri w' ∧
    ((w'.opened = w.opened ++ [uri] ∧ w'.refused = w.refused) ∨
      (w'.opened = w.opened ∧ w'.refused = w.refused ++ [uri]))

-- No other page than this one is opened.
structure Failed (text html : String) (w : PreviewWorld) (e : PyExc) (w' : PreviewWorld) :
    Prop where
  opened : w'.opened = w.opened ∨ ∃ uri, Written w html uri w' ∧ w'.opened = w.opened ++ [uri]
  raised : e.isException → ∃ e' : PyExc, e = ⟨.printerError, text ++ fmt e'⟩

def Keeps (w w' : PreviewWorld) : Prop :=
  w.files <+: w'.files ∧ w.opened <+: w'.opened

theorem openPage_wp (text content : String) (w : PreviewWorld) :
    (openPage fmt text content).wp PreviewWorld.Answers (Keeps w) (fun _ => Shown w content)
      (Failed fmt text content w) w := by
  have hcaught {e : PyExc} {w' : PreviewWorld} (hk : Keeps w w')
      (ho : w'.opened = w.opened ∨
        ∃ uri, Written w content uri w' ∧ w'.opened = w.opened ++ [uri]) :
      Program.wp PreviewWorld.Answers (Keeps w)
        (.throw (if e.isException then ⟨.printerError, text ++ fmt e⟩ else e))
        (fun _ : Unit => Shown w content) (Failed fmt text content w) w' := by
    refine ⟨hk, ho, fun he => ?_⟩
    split at he
    case isTrue hc  => exact ⟨e, if_pos hc⟩
    case isFalse hc => exact absurd he hc
  have hw : Keeps w w := ⟨List.prefix_rfl, List.prefix_rfl⟩
  refine wp.tryCatch <| wp.bind <| wp.perform hw ?written ?unwritten
  case unwritten =>
    intro e w' hans
    rcases hans with ⟨_, _, ⟨⟩, _⟩ | ⟨_, uri, rest, _, _, rfl⟩
    have hk : Keeps w { w with files := w.files ++ [(uri, rest)] } :=
      ⟨List.prefix_append .., List.prefix_rfl⟩
    exact ⟨hk, hcaught hk (.inl rfl)⟩
  case written =>
    intro uri w₁ hans
    rcases hans with ⟨_, hnew, ⟨⟩, rfl⟩ | ⟨_, _, _, _, ⟨⟩, _⟩
    have hk : Keeps w { w with files := w.files ++ [(uri, content)] } :=
      ⟨List.prefix_append .., List.prefix_rfl⟩
    have hopened : Keeps w { w with
        files  := w.files ++ [(uri, content)]
        opened := w.opened ++ [uri]
      } :=
      ⟨hk.1, List.prefix_append ..⟩
    refine ⟨hk, wp.bind <| wp.perform hk ?_ ?_⟩
    · intro _ w' hans
      rcases hans with ⟨-, rfl⟩ | ⟨-, rfl⟩ | ⟨⟨_, ⟨⟩⟩, _⟩
      · exact ⟨hopened, hopened, uri, ⟨hnew, rfl⟩, .inl ⟨rfl, rfl⟩⟩
      · exact ⟨hk, hk, uri, ⟨hnew, rfl⟩, .inr ⟨rfl, rfl⟩⟩
    · intro e w' hans
      rcases hans with ⟨⟨⟩, _⟩ | ⟨⟨⟩, _⟩ | ⟨-, rfl | rfl⟩
      · exact ⟨hk, hcaught hk (.inl rfl)⟩
      · exact ⟨hopened, hcaught hopened (.inr ⟨uri, ⟨hnew, rfl⟩, rfl⟩)⟩

-- Whatever fails, pages and their files are kept. A call that returns has written one file, on
-- which the record can be read back as it is, and has opened its page, unless no browser could be
-- launched: the code does not look. One that raises has opened no other page.
theorem previews_shown (p : Preview) (w : PreviewWorld) :
    ∃ html, htmlTags html = p.page str ∧
      (p.program fmt str).wp PreviewWorld.Answers (Keeps w) (fun _ => Shown w html)
        (Failed fmt p.failed html w) w := by
  cases p
  case label record =>
    exact ⟨_, htmlTags_renderLabel str record, openPage_wp fmt _ _ w⟩
  case poLabel poNumber =>
    exact ⟨_, htmlTags_renderPoLabel poNumber, openPage_wp fmt _ _ w⟩

end ReceivingApp.PreviewPrinter
