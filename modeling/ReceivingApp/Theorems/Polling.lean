import ReceivingApp.Adapters.BoardPolling
import ReceivingApp.Lib.Trace

open Interaction Except

namespace ReceivingApp

-- ### Bodies

-- Whether the key is in the value can be asked, and is answered with yes by a dict only.
def Json.Readable (key : String) : Json → Prop
  | .dict _  => True
  | .str s   => ¬key.toList <:+: s.toList
  | .list vs => Json.str key ∉ vs
  | _        => False

-- A response that is no JSON is readable as such.
def Response.Readable : Response → Prop
  | .json data => data.Readable "errors"
  | _          => True

-- Where the answers to the two queries have their page.
def Json.firstPage? (data : Json) : Option Json :=
  (data.field? "data").bind fun d => (d.field? "boards").bind fun boards =>
    boards.head?.bind fun board => (board.field? "groups").bind fun groups =>
      groups.head?.bind fun group => group.field? "items_page"

def Json.nextPage? (data : Json) : Option Json :=
  (data.field? "data").bind fun d => d.field? "next_items_page"

-- A page with these items, and with this cursor or none.
def Json.IsPage (page : Json) (items : List Json) (cursor : Json) : Prop :=
  ∃ content, page.field? "items" = some content ∧ content.elements? = some items ∧
    cursor = (page.field? "cursor").getD .null

def Response.Shows (page? : Json → Option Json) (r : Response) (items : List Json)
    (cursor : Json) : Prop :=
  ∃ data page, r = .json data ∧ data.field? "errors" = none ∧ page? data = some page ∧
    page.IsPage items cursor

-- A column value that has an id to be a key of a dict, and a text.
def Json.IsColumnValue (cv : Json) : Prop :=
  (∃ id, cv.field? "id" = some id ∧ id.Hashable) ∧ (cv.field? "text").isSome

-- An item that has an id, a name and, unless they are missing, column values.
structure Json.IsItem (item : Json) : Prop where
  isDict : item.IsDict
  id     : (item.field? "id").isSome
  name   : (item.field? "name").isSome
  values : ∃ cvs, ((item.field? "column_values").getD (.list [])).elements? = some cvs ∧
    ∀ cv ∈ cvs, cv.IsColumnValue

variable {fmt : Formats} {board : BoardApiAdapter}

namespace BoardPolling

section Answers

variable {cols : Columns} {r : Response} {data page item : Json}
variable {items : List Json} {cursor : Json}

-- ### Requests

theorem orBoardError_eq_ok_iff {α : Type} {x : Except PyExc α} {classes : List ExcClass}
    {text : String} {a : α} : orBoardError fmt classes text x = .ok a ↔ x = .ok a := by
  cases x
  case ok b => rfl
  case error e =>
    simp only [orBoardError]
    split <;> simp

theorem within_orBoardError {α : Type} {x : Except PyExc α} {classes : List ExcClass}
    {text : String} (h : x.Within (·.cls ∈ classes)) :
    (orBoardError fmt classes text x).Within (·.cls = .boardError) := by
  cases x
  case ok a => exact within_ok a
  case error exc =>
    intro e he
    rw [orBoardError, if_pos (h exc rfl)] at he
    cases he
    rfl

-- Asking a readable body for its errors finds none, unless it is a dict that has some.
theorem contains_of_readable (h : data.Readable "errors") :
    data.contains "errors" = .ok (data.field? "errors").isSome := by
  cases data
  case dict fields => rfl
  case str s       => exact congrArg Except.ok (decide_eq_false h)
  case list vs =>
    refine congrArg Except.ok (List.any_eq_false.mpr fun v hv he => h ?_)
    rwa [← Json.isStr_iff.mp he]
  all_goals exact h.elim

theorem readable_of_field? {key : String} {v : Json} (h : data.field? key = some v) :
    data.Readable "errors" := by
  cases data
  case dict => trivial
  all_goals cases h

theorem post_of_readable (h : data.Readable "errors") :
    (data.field? "errors" = none ∧ post fmt (.json data) = .ok data) ∨
      (data.field? "errors" ≠ none ∧
        ∃ msg, post fmt (.json data) = .error ⟨.boardError, msg⟩) := by
  simp only [post, contains_of_readable h]
  cases he : data.field? "errors"
  case none      => exact .inl ⟨rfl, rfl⟩
  case some errs => exact .inr ⟨nofun, _, by rw [Json.getItem_eq_ok_iff.mpr he]; rfl⟩

-- A body that is not readable raises a TypeError, be it at the question or at the subscript.
theorem post_of_not_readable (h : ¬data.Readable "errors") :
    ∃ msg, post fmt (.json data) = .error ⟨.typeError, msg⟩ := by
  cases data
  case dict fields => exact absurd trivial h
  case str s =>
    have hs : decide ("errors".toList <:+: s.toList) = true := decide_eq_true (not_not.mp h)
    exact ⟨_, by simp only [post, Json.contains, hs]; rfl⟩
  case list vs =>
    have hv : vs.any (Json.isStr "errors") = true :=
      List.any_eq_true.mpr ⟨_, not_not.mp h, Json.isStr_iff.mpr rfl⟩
    exact ⟨_, by simp only [post, Json.contains, hv]; rfl⟩
  all_goals exact ⟨_, rfl⟩

theorem post_eq_ok_iff :
    post fmt r = .ok data ↔
      r = .json data ∧ data.Readable "errors" ∧ data.field? "errors" = none := by
  cases r
  case json data' =>
    by_cases hr : data'.Readable "errors"
    case neg =>
      have ⟨msg, h⟩ := @post_of_not_readable fmt _ hr
      rw [h]
      refine iff_of_false nofun fun ⟨hd, hr', _⟩ => hr ?_
      cases hd
      exact hr'
    case pos =>
      rcases @post_of_readable fmt _ hr with ⟨he, h⟩ | ⟨he, msg, h⟩
      case inl =>
        rw [h]
        constructor
        · rintro ⟨⟩; exact ⟨rfl, hr, he⟩
        · rintro ⟨⟨⟩, _⟩; rfl
      case inr =>
        rw [h]
        refine iff_of_false nofun fun ⟨hd, _, he'⟩ => he ?_
        cases hd
        exact he'
  all_goals exact iff_of_false nofun nofun

theorem within_post_iff : (post fmt r).Within (·.cls = .boardError) ↔ r.Readable := by
  cases r
  case json data =>
    by_cases hr : data.Readable "errors"
    case neg =>
      have ⟨msg, h⟩ := @post_of_not_readable fmt _ hr
      exact iff_of_false (fun hw => nomatch hw _ h) hr
    case pos =>
      refine iff_of_true (fun e he => ?_) hr
      rcases @post_of_readable fmt _ hr with ⟨_, h⟩ | ⟨_, msg, h⟩
      all_goals
        cases h.symm.trans he
      rfl
  all_goals
    refine iff_of_true (fun e he => ?_) trivial
    cases he
    rfl

-- ### Pages

theorem readPage_eq_ok_iff : readPage page = .ok (items, cursor) ↔ page.IsPage items cursor := by
  simp only [readPage, bind_eq_ok, Json.getItem_eq_ok_iff, Json.iter_eq_ok_iff,
    Json.get_eq_ok_iff]
  constructor
  · rintro ⟨content, hc, its, he, _, ⟨_, rfl⟩, h⟩
    cases h
    exact ⟨content, hc, he, rfl⟩
  · rintro ⟨content, hc, he, rfl⟩
    exact ⟨content, hc, items, he, _, ⟨Json.isDict_of_field? hc, rfl⟩, rfl⟩

-- What has items is a dict, so that asking it for its cursor does not raise.
theorem within_readPage : (readPage page).Within (·.cls ∈ [.keyError, .typeError]) := by
  refine .bind (fun _ => Json.cls_of_getItem) fun content hc => ?_
  have hg : page.get "cursor" = .ok (page.field? "cursor") := by
    have hf := Json.getItem_eq_ok_iff.mp hc
    exact Json.get_eq_ok_iff.mpr ⟨Json.isDict_of_field? hf, rfl⟩
  refine .bind (fun e he => ?_) fun its _ => ?_
  case refine_1 => simp [Json.cls_of_iter he]
  case refine_2 =>
    rw [hg]
    exact within_ok _

theorem readFirst_eq_ok_iff :
    readFirst fmt data = .ok (items, cursor) ↔
      ∃ page, data.firstPage? = some page ∧ page.IsPage items cursor := by
  simp only [readFirst, orBoardError_eq_ok_iff, bind_eq_ok, Json.getItem_eq_ok_iff,
    Json.getFirst_eq_ok_iff, readPage_eq_ok_iff, Json.firstPage?, Option.bind_eq_some_iff]
  constructor
  · rintro ⟨d, hd, boards, hbs, board, hb, groups, hgs, group, hg, page, hp, h⟩
    exact ⟨page, ⟨d, hd, boards, hbs, board, hb, groups, hgs, group, hg, hp⟩, h⟩
  · rintro ⟨page, ⟨d, hd, boards, hbs, board, hb, groups, hgs, group, hg, hp⟩, h⟩
    exact ⟨d, hd, boards, hbs, board, hb, groups, hgs, group, hg, page, hp, h⟩

theorem readNext_eq_ok_iff :
    readNext fmt data = .ok (items, cursor) ↔
      ∃ page, data.nextPage? = some page ∧ page.IsPage items cursor := by
  simp only [readNext, orBoardError_eq_ok_iff, bind_eq_ok, Json.getItem_eq_ok_iff,
    readPage_eq_ok_iff, Json.nextPage?, Option.bind_eq_some_iff]
  constructor
  · rintro ⟨d, hd, page, hp, h⟩
    exact ⟨page, ⟨d, hd, hp⟩, h⟩
  · rintro ⟨page, ⟨d, hd, hp⟩, h⟩
    exact ⟨d, hd, page, hp, h⟩

-- Of the classes that can be raised on the way to a page, all are caught.
theorem within_readFirst : (readFirst fmt data).Within (·.cls = .boardError) := by
  have hmem {c : ExcClass} (h : c ∈ [ExcClass.keyError, .typeError]) :
      c ∈ [ExcClass.keyError, .indexError, .typeError] := by
    revert c
    simp
  have hitem {v : Json} {key : String} :
      (v.getItem key).Within (·.cls ∈ [.keyError, .indexError, .typeError]) :=
    fun _ he => hmem (Json.cls_of_getItem he)
  have hfirst {v : Json} : v.getFirst.Within (·.cls ∈ [.keyError, .indexError, .typeError]) :=
    fun _ => Json.cls_of_getFirst
  apply within_orBoardError
  refine hitem.bind fun d _ => hitem.bind fun boards _ => hfirst.bind fun board _ => ?_
  refine hitem.bind fun groups _ => hfirst.bind fun group _ => hitem.bind fun page _ => ?_
  exact within_readPage.mono fun _ => hmem

theorem within_readNext : (readNext fmt data).Within (·.cls = .boardError) := by
  apply within_orBoardError
  refine .bind (fun _ => Json.cls_of_getItem) fun d _ => ?_
  exact .bind (fun _ => Json.cls_of_getItem) fun page _ => within_readPage

-- ### Answers

-- Of a body that has "data" it can be asked whether it has errors.
theorem answer_eq_ok_iff {read : Json → Except PyExc (List Json × Json)}
    {page? : Json → Option Json}
    (hread : ∀ data, read data = .ok (items, cursor) ↔
      ∃ page, page? data = some page ∧ page.IsPage items cursor)
    (hdata : ∀ data page, page? data = some page → ∃ d, data.field? "data" = some d) :
    (post fmt r >>= read) = .ok (items, cursor) ↔ r.Shows page? items cursor := by
  simp only [bind_eq_ok, post_eq_ok_iff, hread]
  constructor
  · rintro ⟨data, ⟨hr, _, he⟩, page, hp, h⟩
    exact ⟨data, page, hr, he, hp, h⟩
  · rintro ⟨data, page, hr, he, hp, h⟩
    have ⟨d, hd⟩ := hdata data page hp
    exact ⟨data, ⟨hr, readable_of_field? hd, he⟩, page, hp, h⟩

theorem first_eq_ok_iff :
    (post fmt r >>= readFirst fmt) = .ok (items, cursor) ↔
      r.Shows Json.firstPage? items cursor := by
  refine answer_eq_ok_iff (fun _ => readFirst_eq_ok_iff) fun data page hp => ?_
  have ⟨d, hd, _⟩ := Option.bind_eq_some_iff.mp hp
  exact ⟨d, hd⟩

theorem next_eq_ok_iff :
    (post fmt r >>= readNext fmt) = .ok (items, cursor) ↔
      r.Shows Json.nextPage? items cursor := by
  refine answer_eq_ok_iff (fun _ => readNext_eq_ok_iff) fun data page hp => ?_
  have ⟨d, hd, _⟩ := Option.bind_eq_some_iff.mp hp
  exact ⟨d, hd⟩

-- What an answer raises beyond BoardErrors, asking it for its errors raises.
theorem within_first_iff :
    (post fmt r >>= readFirst fmt).Within (·.cls = .boardError) ↔ r.Readable :=
  (within_bind_iff fun _ => within_readFirst).trans within_post_iff

theorem within_next_iff :
    (post fmt r >>= readNext fmt).Within (·.cls = .boardError) ↔ r.Readable :=
  (within_bind_iff fun _ => within_readNext).trans within_post_iff

-- ### Items

theorem columnTexts_isOk_iff {cvs : List Json} :
    (∃ colMap, columnTexts cvs = .ok colMap) ↔ ∀ cv ∈ cvs, cv.IsColumnValue := by
  rw [columnTexts, exists_mapM_eq_ok_iff]
  refine forall₂_congr fun cv _ => ?_
  simp only [bind_eq_ok, Json.getItem_eq_ok_iff, Json.IsColumnValue, Option.isSome_iff_exists]
  constructor
  · rintro ⟨_, id, hid, text, ht, ⟨⟩, hh, _⟩
    exact ⟨⟨id, hid, Json.checkHash_eq_ok_iff.mp hh⟩, text, ht⟩
  · rintro ⟨⟨id, hid, hh⟩, text, ht⟩
    exact ⟨_, id, hid, text, ht, (), Json.checkHash_eq_ok_iff.mpr hh, rfl⟩

theorem parseItem_isOk_iff : (∃ d, parseItem cols item = .ok d) ↔ item.IsItem := by
  simp only [parseItem, bind_eq_ok, Json.get_eq_ok_iff, Json.iter_eq_ok_iff,
    Json.getItem_eq_ok_iff]
  constructor
  · rintro ⟨_, _, ⟨hd, rfl⟩, cvs, hc, colMap, hm, id, hid, name, hn, _⟩
    refine ⟨hd, Option.isSome_of_eq_some hid, Option.isSome_of_eq_some hn, cvs, hc, ?_⟩
    exact columnTexts_isOk_iff.mp ⟨colMap, hm⟩
  · intro h
    have ⟨id, hid⟩ := Option.isSome_iff_exists.mp h.id
    have ⟨name, hn⟩ := Option.isSome_iff_exists.mp h.name
    have ⟨cvs, hc, hv⟩ := h.values
    have ⟨colMap, hm⟩ := columnTexts_isOk_iff.mpr hv
    exact ⟨_, _, ⟨h.isDict, rfl⟩, cvs, hc, colMap, hm, id, hid, name, hn, rfl⟩

-- Nothing that is raised by an item is caught.
theorem within_parseItem : (parseItem cols item).Within (¬·.cls = .boardError) := by
  have hitem {v : Json} {key : String} : (v.getItem key).Within (¬·.cls = .boardError) :=
    fun e he hb => by simpa [hb] using Json.cls_of_getItem he
  refine .bind (fun e he => by simp [Json.cls_of_get he]) fun values _ => ?_
  refine .bind (fun e he => by simp [Json.cls_of_iter he]) fun cvs _ => ?_
  refine .bind (.mapM fun cv => ?_) fun colMap _ => ?_
  case refine_1 =>
    refine hitem.bind fun id _ => hitem.bind fun text _ => ?_
    exact .bind (fun e he => by simp [Json.cls_of_checkHash he]) fun _ _ => within_ok _
  case refine_2 => exact hitem.bind fun id _ => hitem.bind fun name _ => within_ok _

theorem within_parseItems_iff :
    (items.mapM (parseItem cols)).Within (·.cls = .boardError) ↔ ∀ item ∈ items, item.IsItem := by
  rw [within_iff_exists_ok (.mapM fun _ => within_parseItem), exists_mapM_eq_ok_iff]
  exact forall₂_congr fun _ _ => parseItem_isOk_iff

-- The keys of the contract.
def contractKeys : List String := ["item_id", "po_number", "inventory_id", "model", "serial"]

theorem keys_of_parseItem {d : List (String × Json)} (h : parseItem cols item = .ok d) :
    d.map Prod.fst = contractKeys := by
  simp only [parseItem, bind_eq_ok] at h
  obtain ⟨_, _, _, _, _, _, _, _, _, _, h⟩ := h
  cases h
  rfl

end Answers

-- ### Page after page

-- What is known while the pages are read: nothing yet, or the items so far and the last cursor.
inductive Reading
  | start
  | read (items : List Json) (cursor : Json)

namespace Reading

-- A response that shows the page which was asked for.
inductive Step : Reading → Response → Reading → Prop
  | first {r : Response} {items : List Json} {cursor : Json} :
      r.Shows Json.firstPage? items cursor → Step start r (read items cursor)
  | next {r : Response} {items more : List Json} {cursor cursor' : Json} :
      cursor.truthy → r.Shows Json.nextPage? more cursor' →
      Step (read items cursor) r (read (items ++ more) cursor')

-- Whether there is a page to ask for.
def Awaits : Reading → Prop
  | start         => True
  | read _ cursor => cursor.truthy

def items : Reading → List Json
  | start        => []
  | read items _ => items

-- As long as there are pages to ask for, the responses are readable, and once there are none, all
-- items that were read are items.
structure Orderly (s : Reading) (rs : List Response) : Prop where
  readable : ∀ rs₁ r rs₂ s', rs = rs₁ ++ r :: rs₂ → Trace Step s rs₁ s' → s'.Awaits → r.Readable
  items    : ∀ rs₁ rs₂ s', rs = rs₁ ++ rs₂ → Trace Step s rs₁ s' → ¬s'.Awaits →
    ∀ item ∈ s'.items, item.IsItem

variable {s s' : Reading} {r : Response} {rs : List Response}

theorem Step.awaits (h : Step s r s') : s.Awaits := by
  cases h
  case first     => trivial
  case next hc _ => exact hc

theorem orderly_of_not_awaits (h : ¬s.Awaits) :
    Orderly s rs ↔ ∀ item ∈ s.items, item.IsItem := by
  have hnil {rs₁ : List Response} {s' : Reading} (ht : Trace Step s rs₁ s') : s' = s := by
    cases ht
    case nil       => rfl
    case cons he _ => exact absurd he.awaits h
  constructor
  case mp  => exact fun ho => ho.items [] rs s rfl (.nil s) h
  case mpr =>
    intro hi
    exact ⟨fun _ _ _ _ _ ht ha => absurd (hnil ht ▸ ha) h, fun _ _ _ _ ht _ => hnil ht ▸ hi⟩

theorem orderly_nil (h : s.Awaits) : Orderly s [] := by
  constructor
  case readable => exact fun rs₁ r rs₂ _ hrs => by simp at hrs
  case items =>
    intro rs₁ rs₂ s' hrs ht hn
    obtain ⟨rfl, _⟩ := List.append_eq_nil_iff.mp hrs.symm
    cases ht
    exact absurd h hn

theorem orderly_cons (h : s.Awaits) :
    Orderly s (r :: rs) ↔ r.Readable ∧ ∀ s', Step s r s' → Orderly s' rs := by
  constructor
  case mp =>
    intro ho
    refine ⟨ho.readable [] r rs s rfl (.nil s) h, fun s' hs => ⟨?_, ?_⟩⟩
    · exact fun rs₁ r' rs₂ m hrs ht => ho.readable (r :: rs₁) r' rs₂ m (by simp [hrs]) (.cons hs ht)
    · exact fun rs₁ rs₂ m hrs ht => ho.items (r :: rs₁) rs₂ m (by simp [hrs]) (.cons hs ht)
  case mpr =>
    intro ⟨hr, ho⟩
    constructor
    case readable =>
      intro rs₁ r' rs₂ m hrs ht ha
      cases ht
      case nil =>
        cases hrs
        exact hr
      case cons r₁ rs₁ hs ht =>
        cases hrs
        exact (ho _ hs).readable rs₁ r' rs₂ m rfl ht ha
    case items =>
      intro rs₁ rs₂ m hrs ht hn
      cases ht
      case nil => exact absurd h hn
      case cons r₁ rs₁ hs ht =>
        cases hrs
        exact (ho _ hs).items rs₁ rs₂ m rfl ht hn

end Reading

-- ### Only BoardErrors

section Loop

variable {cols : Columns} {r : Response} {rs : List Response}
variable {items : List Json} {cursor : Json}

-- The result is a list of items with the keys of the contract, or a BoardError.
structure Polled.Sound (p : Polled) : Prop where
  keys  : ∀ items, p.result = some (.ok items) → ∀ d ∈ items, d.map Prod.fst = contractKeys
  raise : ∀ e, p.result = some (.error e) → e.cls = .boardError

theorem sound_after {request : Request} {p : Polled} : Polled.Sound (p.after request) ↔ p.Sound :=
  ⟨fun h => ⟨h.keys, h.raise⟩, fun h => ⟨h.keys, h.raise⟩⟩

theorem sound_error_iff {requests : List Request} {e : PyExc} :
    Polled.Sound ⟨requests, some (.error e)⟩ ↔ e.cls = .boardError :=
  ⟨fun h => h.raise e rfl, fun h => ⟨nofun, fun _ he => by cases he; exact h⟩⟩

theorem sound_parseItems_iff :
    Polled.Sound ⟨[], some (items.mapM (parseItem cols))⟩ ↔ ∀ item ∈ items, item.IsItem := by
  rw [← within_parseItems_iff]
  constructor
  case mp  => exact fun h e he => h.raise e (congrArg some he)
  case mpr =>
    refine fun h => ⟨fun ds hd d hmem => ?_, fun e he => h e (Option.some.inj he)⟩
    have hm := mapM_eq_ok_iff.mp (Option.some.inj hd)
    obtain ⟨item, _, hi⟩ := List.mem_map.mp (hm ▸ List.mem_map_of_mem hmem)
    exact keys_of_parseItem hi

theorem loop_of_not_truthy (h : ¬cursor.truthy) :
    loop fmt cols rs items cursor = ⟨[], some (items.mapM (parseItem cols))⟩ := by
  cases rs <;> rw [loop, if_neg h]

theorem loop_nil (h : cursor.truthy) :
    loop fmt cols [] items cursor = ⟨[nextRequest cursor], none⟩ := by
  rw [loop, if_pos h]

theorem loop_cons_of_error {e : PyExc} (h : cursor.truthy)
    (ha : (post fmt r >>= readNext fmt) = .error e) :
    loop fmt cols (r :: rs) items cursor = ⟨[nextRequest cursor], some (.error e)⟩ := by
  rw [loop, if_pos h, ha]

theorem loop_cons_of_ok {more : List Json} {cursor' : Json} (h : cursor.truthy)
    (ha : (post fmt r >>= readNext fmt) = .ok (more, cursor')) :
    loop fmt cols (r :: rs) items cursor =
      (loop fmt cols rs (items ++ more) cursor').after (nextRequest cursor) := by
  rw [loop, if_pos h, ha]

theorem pollReady_cons_of_error {e : PyExc} (ha : (post fmt r >>= readFirst fmt) = .error e) :
    pollReady fmt board (r :: rs) = ⟨[firstRequest board], some (.error e)⟩ := by
  rw [pollReady, ha]

theorem pollReady_cons_of_ok (ha : (post fmt r >>= readFirst fmt) = .ok (items, cursor)) :
    pollReady fmt board (r :: rs) =
      (loop fmt board.columns rs items cursor).after (firstRequest board) := by
  rw [pollReady, ha]

theorem Reading.step_read_iff {s' : Reading} (hc : cursor.truthy) :
    Step (read items cursor) r s' ↔
      ∃ more, (post fmt r >>= readNext fmt) = .ok more ∧ s' = read (items ++ more.1) more.2 := by
  constructor
  case mp =>
    intro h
    cases h
    case next _ h => exact ⟨(_, _), next_eq_ok_iff.mpr h, rfl⟩
  case mpr =>
    rintro ⟨more, h, rfl⟩
    exact .next hc (next_eq_ok_iff.mp h)

theorem Reading.step_start_iff {s' : Reading} :
    Step start r s' ↔
      ∃ first, (post fmt r >>= readFirst fmt) = .ok first ∧ s' = read first.1 first.2 := by
  constructor
  case mp =>
    intro h
    cases h
    case first h => exact ⟨(_, _), first_eq_ok_iff.mpr h, rfl⟩
  case mpr =>
    rintro ⟨first, h, rfl⟩
    exact .first (first_eq_ok_iff.mp h)

-- One answer: what it raises is the result, and what it shows is read on from.
theorem sound_answer_iff {s : Reading} {answer : Except PyExc (List Json × Json)}
    {next : List Json × Json → Reading} {rest : List Json × Json → Polled} {p : Polled}
    {request : Request} (hs : s.Awaits)
    (hstep : ∀ s', Reading.Step s r s' ↔ ∃ a, answer = .ok a ∧ s' = next a)
    (hw : answer.Within (·.cls = .boardError) ↔ r.Readable)
    (herr : ∀ e, answer = .error e → p = ⟨[request], some (.error e)⟩)
    (hok : ∀ a, answer = .ok a → p = (rest a).after request)
    (hrest : ∀ a, (rest a).Sound ↔ Reading.Orderly (next a) rs) :
    p.Sound ↔ Reading.Orderly s (r :: rs) := by
  rw [Reading.orderly_cons hs, ← hw]
  cases answer
  case error e =>
    rw [herr e rfl, sound_error_iff]
    constructor
    case mp =>
      refine fun h => ⟨fun _ he => Except.error.inj he ▸ h, fun s' hs' => ?_⟩
      obtain ⟨_, ha, _⟩ := (hstep s').mp hs'
      cases ha
    case mpr => exact fun h => h.1 e rfl
  case ok a =>
    rw [hok a rfl, sound_after, hrest a]
    constructor
    case mp =>
      refine fun h => ⟨within_ok a, fun s' hs' => ?_⟩
      obtain ⟨_, ⟨⟩, rfl⟩ := (hstep s').mp hs'
      exact h
    case mpr => exact fun h => h.2 _ ((hstep _).mpr ⟨a, rfl, rfl⟩)

theorem sound_loop_iff :
    (loop fmt cols rs items cursor).Sound ↔ Reading.Orderly (.read items cursor) rs := by
  have hstop {rs : List Response} {items : List Json} {cursor : Json} (hc : ¬cursor.truthy) :
      (loop fmt cols rs items cursor).Sound ↔ Reading.Orderly (.read items cursor) rs := by
    rw [loop_of_not_truthy hc, sound_parseItems_iff]
    exact (Reading.orderly_of_not_awaits (s := .read items cursor) hc).symm
  induction rs generalizing items cursor
  case nil =>
    by_cases hc : cursor.truthy
    case neg => exact hstop hc
    case pos =>
      rw [loop_nil hc]
      exact iff_of_true ⟨nofun, nofun⟩ (Reading.orderly_nil hc)
  case cons r rs ih =>
    by_cases hc : cursor.truthy
    case neg => exact hstop hc
    case pos =>
      exact sound_answer_iff hc (fun _ => Reading.step_read_iff hc) within_next_iff
        (fun _ => loop_cons_of_error hc) (fun _ => loop_cons_of_ok hc) (fun _ => ih)

theorem sound_pollReady_iff :
    (pollReady fmt board rs).Sound ↔ Reading.Orderly .start rs := by
  cases rs
  case nil => exact iff_of_true ⟨nofun, nofun⟩ (Reading.orderly_nil trivial)
  case cons r rs =>
    exact sound_answer_iff trivial (fun _ => Reading.step_start_iff) within_first_iff
      (fun _ => pollReady_cons_of_error) (fun _ => pollReady_cons_of_ok) (fun _ => sound_loop_iff)

end Loop
end BoardPolling

open BoardPolling

-- `poll_ready` returns items with the keys of the contract or raises a BoardError exactly if the
-- responses can be asked for errors and every item that is read to the end is one.
theorem pollReady_sound_iff {rs : List Response} :
    ((∀ items, (pollReady fmt board rs).result = some (.ok items) →
        ∀ d ∈ items, d.map Prod.fst = contractKeys) ∧
      ∀ e, (pollReady fmt board rs).result = some (.error e) → e.cls = .boardError) ↔
      Reading.Orderly .start rs := by
  rw [← sound_pollReady_iff]
  exact ⟨fun h => ⟨h.1, h.2⟩, fun h => ⟨h.keys, h.raise⟩⟩

-- The formats and the ids do not matter here.
def Formats.plain : Formats where
  value _ := "{...}"
  exc e   := e.msg

def BoardApiAdapter.sample : BoardApiAdapter where
  apiUrl          := "https://board"
  token           := "token"
  boardId         := "1"
  readyGroupId    := "ready"
  receivedGroupId := "received"
  noMatchGroupId  := "no match"
  inventoryIdCol  := "col_inventory"
  modelCol        := "col_model"
  serialCol       := "col_serial"
  statusCol       := "col_status"

-- An answer to the first query.
def firstAnswer (items : Json) (cursor : Json) : Json :=
  .dict [("data", .dict [("boards", .list [.dict [("groups", .list [.dict [("items_page", .dict [
    ("cursor", cursor), ("items", items)])]])]])])]

-- A body that is null raises, and so does an item whose column values are null.
theorem not_pollReady_sound :
    (¬∀ (bodies : List Json) (e : PyExc),
      (pollReady .plain .sample (bodies.map .json)).result = some (.error e) →
        e.cls = .boardError) ∧
    ∃ msg, (pollReady .plain .sample [.json (firstAnswer (.list [.dict [("id", .str "1"),
      ("name", .str "P"), ("column_values", .null)]]) .null)]).result =
        some (.error ⟨.typeError, msg⟩) :=
  ⟨fun h => absurd (h [.null] _ rfl) nofun, _, rfl⟩

end ReceivingApp
