import ReceivingApp.Adapters.Printer
import ReceivingApp.Lib.Commands

open Commands

namespace ReceivingApp.Zpl

-- ### Reading ZPL

def isIntroducer (c : Char) : Bool :=
  c = '^' || c = '~'

-- A command with its letters, and its parameters or its field data. Line breaks count in data only.
structure ZplCommand where
  letters    : String
  parameters : String
  data       : Option String
  deriving DecidableEq, Repr

def ZplCommand.read (c : Char × List Char) : ZplCommand :=
  let letters := String.ofList (c.1 :: c.2.take 2)
  if letters = "^FD" then ⟨letters, "", some (String.ofList (c.2.drop 2))⟩
  else ⟨letters, String.ofList ((c.2.drop 2).filter (· ≠ '\n')), none⟩

def zplCommands (zpl : String) : List ZplCommand :=
  (commands isIntroducer zpl.toList).map .read

-- The commands of a text up to the data of its fields, and these data.
def template (zpl : String) : List (String × String) :=
  (zplCommands zpl).map fun c => (c.letters, c.parameters)

def fieldData (zpl : String) : List String :=
  (zplCommands zpl).filterMap ZplCommand.data

-- The data that are printed as barcodes, of commands given by their letters and data. A barcode
-- command holds up to the end of its field.
def codedData {δ : Type} : Bool → List (String × Option δ) → List δ
  | _, []         => []
  | coded, c :: l =>
    let coded := c.1 = "^BC" || coded && c.1 ≠ "^FS"
    (if coded then c.2.toList else []) ++ codedData coded l

def barcodes (zpl : String) : List String :=
  codedData false ((zplCommands zpl).map fun c => (c.letters, c.data))

theorem codedData_map {δ γ : Type} (g : δ → γ) (coded : Bool) (l : List (String × Option δ)) :
    codedData coded (l.map fun c => (c.1, c.2.map g)) = (codedData coded l).map g := by
  induction l generalizing coded
  case nil => rfl
  case cons c l ih =>
    simp only [List.map_cons, codedData, List.map_append, ih]
    split
    case isTrue  => rw [Option.toList_map]
    case isFalse => rfl

-- ### Reading a format of a label

section Formats

variable {ι : Type} {v : ι → List Char}

-- A command of a format. Only field data may have slots.
structure CommandFormat (ι : Type) where
  letters    : String
  parameters : String
  data       : Option (Format Char ι)
  deriving DecidableEq

def CommandFormat.read? : Char × Format Char ι → Option (CommandFormat ι)
  | (c, .inl a :: .inl b :: f) =>
    let letters := String.ofList [c, a, b]
    if letters = "^FD" then some ⟨letters, "", some f⟩
    else if f.all Sum.isLeft then
      some ⟨letters, String.ofList ((f.filterMap Sum.getLeft?).filter (· ≠ '\n')), none⟩
    else none
  | _ => none

def CommandFormat.fill (v : ι → List Char) (c : CommandFormat ι) : ZplCommand :=
  ⟨c.letters, c.parameters, c.data.map fun f => String.ofList (Commands.fill v f)⟩

def readFormat (f : Format Char ι) : Option (List (CommandFormat ι)) :=
  (formatCommands isIntroducer f).mapM CommandFormat.read?

theorem fill_of_isLeft {f : Format Char ι} (h : f.all Sum.isLeft) :
    fill v f = f.filterMap Sum.getLeft? := by
  induction f
  case nil => rfl
  case cons x f ih =>
    cases x
    case inl a => simp_all
    case inr i => simp at h

theorem CommandFormat.read?_eq_some {c : Char × Format Char ι} {cf : CommandFormat ι}
    (h : read? c = some cf) : ZplCommand.read (c.1, Commands.fill v c.2) = cf.fill v := by
  obtain ⟨c, f⟩ := c
  unfold read? at h
  split at h
  case h_2 => cases h
  case h_1 c' a b f' he =>
    cases he
    dsimp only at h
    split at h
    case isTrue hd =>
      cases h
      exact if_pos hd
    case isFalse hd =>
      split at h
      case isFalse    => cases h
      case isTrue hall =>
        cases h
        rw [CommandFormat.fill, ← fill_of_isLeft (v := v) hall]
        exact if_neg hd

-- A text is read as its format is, whatever its slots are filled with.
theorem zplCommands_of_format {zpl : String} {f : Format Char ι} {cs : List (CommandFormat ι)}
    (hzpl : zpl.toList = fill v f) (hv : ∀ i, ∀ c ∈ v i, isIntroducer c = false)
    (hf : readFormat f = some cs) : zplCommands zpl = cs.map (·.fill v) := by
  rw [zplCommands, hzpl, commands_fill hv, List.map_map]
  exact map_eq_of_mapM_eq_some CommandFormat.read?_eq_some hf

-- What can be told of a text from its format: the template, and the format of each field.
def outline (f : Format Char ι) : Option (List (String × String) × List (Format Char ι)) :=
  (readFormat f).map fun cs =>
    (cs.map (fun c => (c.letters, c.parameters)), cs.filterMap CommandFormat.data)

theorem template_and_fieldData {zpl : String} {f : Format Char ι} {t : List (String × String)}
    {d : List (Format Char ι)} (hzpl : zpl.toList = fill v f)
    (hv : ∀ i, ∀ c ∈ v i, isIntroducer c = false) (hf : outline f = some (t, d)) :
    template zpl = t ∧ fieldData zpl = d.map fun f => String.ofList (fill v f) := by
  obtain ⟨cs, hcs, ⟨⟩⟩ := Option.map_eq_some_iff.mp hf
  rw [template, fieldData, zplCommands_of_format hzpl hv hcs, List.map_map, List.filterMap_map,
    List.map_filterMap]
  exact ⟨rfl, rfl⟩

def codedFormats (f : Format Char ι) : Option (List (Format Char ι)) :=
  (readFormat f).map fun cs => codedData false (cs.map fun c => (c.letters, c.data))

theorem barcodes_of_format {zpl : String} {f : Format Char ι} {d : List (Format Char ι)}
    (hzpl : zpl.toList = fill v f) (hv : ∀ i, ∀ c ∈ v i, isIntroducer c = false)
    (hf : codedFormats f = some d) : barcodes zpl = d.map fun f => String.ofList (fill v f) := by
  obtain ⟨cs, hcs, rfl⟩ := Option.map_eq_some_iff.mp hf
  rw [barcodes, zplCommands_of_format hzpl hv hcs, ← codedData_map, List.map_map, List.map_map]
  rfl

end Formats

-- ### Texts without introducers

def Plain (s : String) : Prop :=
  ∀ c ∈ s.toList, isIntroducer c = false

theorem plain_zplSafe (s : Option String) : Plain (zplSafe s) := by
  intro c hc
  simp only [zplSafe, String.toList_ofList, List.mem_map, List.mem_filter] at hc
  obtain ⟨c', ⟨⟨-, h₁⟩, h₂⟩, rfl⟩ := hc
  split
  case isTrue  => decide
  case isFalse => simp_all [isIntroducer]

theorem plain_zeroPad (width n : Nat) : Plain (zeroPad width n) := by
  intro c hc
  simp only [zeroPad, String.toList_ofList, List.leftpad, List.mem_append, List.mem_replicate] at hc
  rcases hc with ⟨-, rfl⟩ | hc
  · decide
  · have hd := Nat.isDigit_of_mem_toDigits (by decide) (by decide) hc
    rw [isIntroducer, Bool.or_eq_false_iff]
    constructor
    case left | right =>
      refine decide_eq_false ?_
      rintro rfl
      exact absurd hd (by decide)

theorem Plain.append {s s' : String} (h : Plain s) (h' : Plain s') : Plain (s ++ s') := by
  intro c hc
  rw [String.toList_append] at hc
  rcases List.mem_append.mp hc with hc | hc
  · exact h c hc
  · exact h' c hc

theorem plain_strftime (d : Date) : Plain d.strftime := by
  have hslash : Plain "/" := by simp [Plain, isIntroducer]
  have h₁ := (plain_zeroPad 2 d.month).append hslash
  have h₂ := (h₁.append (plain_zeroPad 2 d.day)).append hslash
  exact h₂.append (plain_zeroPad 4 d.year)

-- ### Formats of labels

-- The values that stand on a label.
inductive Datum
  | description
  | brand
  | purchaseOrder
  | model
  | serial
  | tags
  | inventoryId
  | today
  deriving DecidableEq

section Lines

variable {ι : Type}

def text (s : String) : Format Char ι :=
  lit s.toList

-- A line whose field data are a text and a value.
def fieldLine (before : String) (value : ι) (after : String) : Format Char ι :=
  text before ++ [.inr value] ++ text after

variable {v : ι → List Char} {i : ι} {before after s : String}

theorem fill_text : fill v (text s) = s.toList :=
  fill_lit

theorem fill_fieldLine :
    fill v (fieldLine before i after) = (before ++ String.ofList (v i) ++ after).toList := by
  simp [fieldLine, fill_text]

end Lines

def labelFormat : Format Char Datum := List.flatten [
  text "^XA\n",
  text "^PW812\n",
  text "^LL609\n",
  text "^CI28\n",
  fieldLine "^FO10,20^A0N,28,28^FB790,3,0,L^FD" .description "^FS\n",
  fieldLine "^FO10,118^A0N,24,24^FDBrand: " .brand "^FS\n",
  fieldLine "^FO10,154^A0N,22,22^FDPurchase Order: " .purchaseOrder "^FS\n",
  fieldLine "^FO10,182^A0N,28,28^FDModel: " .model "^FS\n",
  fieldLine "^FO430,182^A0N,28,28^FDSN#: " .serial "^FS\n",
  fieldLine "^FO10,246^A0N,20,20^FDTags: " .tags "^FS\n",
  fieldLine "^FO10,270^A0N,20,20^FDInventory ID: " .inventoryId "^FS\n",
  fieldLine "^FO10,296^BY4^BCN,80,N,N,N^FD%" .inventoryId "%^FS\n",
  fieldLine "^FO0,412^A0N,80,80^FB812,1,0,C^FD" .inventoryId "^FS\n",
  text "^FO10,498^GB790,2,2^FS\n",
  fieldLine "^FO10,504^A0N,20,20^FDReceived: " .today "^FS\n",
  fieldLine "^FO500,504^A0N,20,20^FDPrinted: " .today "^FS\n",
  text "^XZ\n"
]

def labelValue (today : Date) (record : ReceivingRecord) : Datum → String
  | .description   => zplSafe s!"{record.modelNumber} - {record.productCategory}"
  | .brand         => zplSafe record.brand
  | .purchaseOrder => zplSafe record.purchaseOrder
  | .model         => zplSafe record.modelNumber
  | .serial        => zplSafe record.serial
  | .tags          => zplSafe record.tags
  | .inventoryId   => zplSafe record.inventoryId
  | .today         => zplSafe today.strftime

theorem toList_buildZpl (today : Date) (record : ReceivingRecord) :
    (buildZpl today record).toList =
      fill (fun i => (labelValue today record i).toList) labelFormat := by
  unfold buildZpl labelFormat
  simp only [List.flatten_cons, List.flatten_nil, fill_append, fill_text, fill_fieldLine,
    labelValue, toString, String.toList_append, String.ofList_toList, List.append_assoc,
    List.append_nil]

-- The values that stand on a label for a purchase order.
inductive PoDatum
  | purchaseOrder
  | barcode
  | today
  deriving DecidableEq

def poLabelFormat : Format Char PoDatum := List.flatten [
  text "^XA\n",
  text "^PW812\n",
  text "^LL406\n",
  text "^CI28\n",
  text "^FO10,15^A0N,28,28^FDPURCHASE ORDER^FS\n",
  fieldLine "^FO10,55^A0N,80,80^FD" .purchaseOrder "^FS\n",
  fieldLine "^FO10,152^BY3^BCN,80,N,N,N^FD" .barcode "^FS\n",
  fieldLine "^FO0,266^A0N,28,28^FB812,1,0,C^FD" .barcode "^FS\n",
  fieldLine "^FO10,316^A0N,22,22^FDPrinted: " .today "^FS\n",
  text "^XZ\n"
]

def poLabelValue (today : Date) (poNumber : String) : PoDatum → String
  | .purchaseOrder => zplSafe poNumber
  | .barcode       => zplSafe s!"PO:{poNumber}"
  | .today         => today.strftime

theorem toList_buildPoZpl (today : Date) (poNumber : String) :
    (buildPoZpl today poNumber).toList =
      fill (fun i => (poLabelValue today poNumber i).toList) poLabelFormat := by
  unfold buildPoZpl poLabelFormat
  simp only [List.flatten_cons, List.flatten_nil, fill_append, fill_text, fill_fieldLine,
    poLabelValue, toString, String.toList_append, String.ofList_toList, List.append_assoc,
    List.append_nil]

theorem plain_labelValue (today : Date) (record : ReceivingRecord) (i : Datum) :
    Plain (labelValue today record i) := by
  cases i
  all_goals exact plain_zplSafe _

theorem plain_poLabelValue (today : Date) (poNumber : String) (i : PoDatum) :
    Plain (poLabelValue today poNumber i) := by
  cases i
  case purchaseOrder | barcode => exact plain_zplSafe _
  case today                   => exact plain_strftime today

-- ### Labels

-- The commands that each label begins with, one of its fields, and its last command.
def opening (length : String) : List (String × String) :=
  [("^XA", ""), ("^PW", "812"), ("^LL", length), ("^CI", "28")]

def field (origin : String) (layout : List (String × String)) : List (String × String) :=
  ("^FO", origin) :: layout ++ [("^FD", ""), ("^FS", "")]

def font (size : String) : String × String :=
  ("^A0", s!"N,{size},{size}")

def barcode (width : String) : List (String × String) :=
  [("^BY", width), ("^BC", "N,80,N,N,N")]

def labelTemplate : List (String × String) := List.flatten [
  opening "609",
  field "10,20" [font "28", ("^FB", "790,3,0,L")],
  field "10,118" [font "24"],
  field "10,154" [font "22"],
  field "10,182" [font "28"],
  field "430,182" [font "28"],
  field "10,246" [font "20"],
  field "10,270" [font "20"],
  field "10,296" (barcode "4"),
  field "0,412" [font "80", ("^FB", "812,1,0,C")],
  [("^FO", "10,498"), ("^GB", "790,2,2"), ("^FS", "")],
  field "10,504" [font "20"],
  field "500,504" [font "20"],
  [("^XZ", "")]
]

def poLabelTemplate : List (String × String) := List.flatten [
  opening "406",
  field "10,15" [font "28"],
  field "10,55" [font "80"],
  field "10,152" (barcode "3"),
  field "0,266" [font "28", ("^FB", "812,1,0,C")],
  field "10,316" [font "22"],
  [("^XZ", "")]
]

def labelData : List (Format Char Datum) := [
  [.inr .description],
  text "Brand: " ++ [.inr .brand],
  text "Purchase Order: " ++ [.inr .purchaseOrder],
  text "Model: " ++ [.inr .model],
  text "SN#: " ++ [.inr .serial],
  text "Tags: " ++ [.inr .tags],
  text "Inventory ID: " ++ [.inr .inventoryId],
  text "%" ++ [.inr .inventoryId] ++ text "%",
  [.inr .inventoryId],
  text "Received: " ++ [.inr .today],
  text "Printed: " ++ [.inr .today]
]

def poLabelData : List (Format Char PoDatum) := [
  text "PURCHASE ORDER",
  [.inr .purchaseOrder],
  [.inr .barcode],
  [.inr .barcode],
  text "Printed: " ++ [.inr .today]
]

theorem outline_labelFormat : outline labelFormat = some (labelTemplate, labelData) := by
  decide +kernel

theorem outline_poLabelFormat : outline poLabelFormat = some (poLabelTemplate, poLabelData) := by
  decide +kernel

def labelFields (today : Date) (record : ReceivingRecord) : List String := [
  zplSafe s!"{record.modelNumber} - {record.productCategory}",
  "Brand: " ++ zplSafe record.brand,
  "Purchase Order: " ++ zplSafe record.purchaseOrder,
  "Model: " ++ zplSafe record.modelNumber,
  "SN#: " ++ zplSafe record.serial,
  "Tags: " ++ zplSafe record.tags,
  "Inventory ID: " ++ zplSafe record.inventoryId,
  "%" ++ zplSafe record.inventoryId ++ "%",
  zplSafe record.inventoryId,
  "Received: " ++ zplSafe today.strftime,
  "Printed: " ++ zplSafe today.strftime
]

def poLabelFields (today : Date) (poNumber : String) : List String := [
  "PURCHASE ORDER",
  zplSafe poNumber,
  zplSafe s!"PO:{poNumber}",
  zplSafe s!"PO:{poNumber}",
  "Printed: " ++ today.strftime
]

theorem fields_of_labelData (today : Date) (record : ReceivingRecord) :
    (labelData.map fun f => String.ofList (fill (fun i => (labelValue today record i).toList) f)) =
      labelFields today record := by
  simp only [labelData, List.map_cons, List.map_nil, fill_append, fill_text, fill_inr, fill_nil,
    List.append_nil, String.ofList_append, String.ofList_toList, labelValue, labelFields]

theorem fields_of_poLabelData (today : Date) (poNumber : String) :
    (poLabelData.map fun f =>
      String.ofList (fill (fun i => (poLabelValue today poNumber i).toList) f)) =
      poLabelFields today poNumber := by
  simp only [poLabelData, List.map_cons, List.map_nil, fill_append, fill_text, fill_inr, fill_nil,
    List.append_nil, String.ofList_append, String.ofList_toList, poLabelValue, poLabelFields]

theorem codedFormats_poLabelFormat : codedFormats poLabelFormat = some [[.inr .barcode]] := by
  decide +kernel

-- The one barcode of a label for a purchase order.
theorem barcodes_buildPoZpl (today : Date) (poNumber : String) :
    barcodes (buildPoZpl today poNumber) = [zplSafe s!"PO:{poNumber}"] := by
  rw [barcodes_of_format (toList_buildPoZpl today poNumber) (plain_poLabelValue today poNumber)
    codedFormats_poLabelFormat]
  simp only [List.map_cons, List.map_nil, fill_inr, fill_nil, List.append_nil, String.ofList_toList,
    poLabelValue]

-- What is printed can change neither the commands of a label nor their parameters. It stands in the
-- data of the fields, where it is as it was made safe.
theorem zpl_template_fixed :
    (∀ (today : Date) (record : ReceivingRecord),
      template (buildZpl today record) = labelTemplate ∧
        fieldData (buildZpl today record) = labelFields today record) ∧
    (∀ (today : Date) (poNumber : String),
      template (buildPoZpl today poNumber) = poLabelTemplate ∧
        fieldData (buildPoZpl today poNumber) = poLabelFields today poNumber) := by
  constructor
  case left =>
    intro today record
    have ⟨ht, hd⟩ := template_and_fieldData (toList_buildZpl today record)
      (plain_labelValue today record) outline_labelFormat
    exact ⟨ht, hd.trans (fields_of_labelData today record)⟩
  case right =>
    intro today poNumber
    have ⟨ht, hd⟩ := template_and_fieldData (toList_buildPoZpl today poNumber)
      (plain_poLabelValue today poNumber) outline_poLabelFormat
    exact ⟨ht, hd.trans (fields_of_poLabelData today poNumber)⟩

end ReceivingApp.Zpl
