import QueryDesk.Table

/-!
# Worksheets and tabs

* `WorksheetId`, `TabId`         numbers that are never given twice;
* `Worksheet`, `QueryTab`, `Editor`   what the user sees;
* `Tabs`                         all worksheets and tabs in the order of their making, with the
  editors and files of the tabs;
* `nextCount`                    the number of the next tab of a worksheet;
* `removeTab`, `removeWorksheet`   with all that hangs on them.
-/

namespace QueryDesk

structure WorksheetId where
  number : Nat
deriving DecidableEq

structure TabId where
  number : Nat
deriving DecidableEq

structure Worksheet where
  id : WorksheetId
  name : String
  active : Option TabId
deriving DecidableEq

structure QueryTab where
  id : TabId
  worksheet : WorksheetId
  name : String
  /-- its number among the tabs of the worksheet -/
  count : UInt32
deriving DecidableEq

structure Editor where
  sql : String
  dirty : Bool
deriving DecidableEq

def Editor.empty : Editor := ⟨"", false⟩

structure Tabs where
  worksheets : List Worksheet
  tabs : List QueryTab
  editors : Table TabId Editor
  files : Table TabId String

namespace Tabs

def empty : Tabs := ⟨[], [], Table.empty, Table.empty⟩

/-- the first item that satisfies `p`, changed by `f` -/
def modifyFirst {α : Type} (p : α → Bool) (f : α → α) : List α → List α
  | [] => []
  | a :: rest => if p a then f a :: rest else a :: modifyFirst p f rest

/-! ## worksheets -/

def worksheet? (t : Tabs) (id : WorksheetId) : Option Worksheet := t.worksheets.find? (·.id = id)

def insertWorksheet (t : Tabs) (id : WorksheetId) (name : String) : Tabs :=
  { t with worksheets := t.worksheets ++ [⟨id, name, none⟩] }

def modifyWorksheet (t : Tabs) (id : WorksheetId) (f : Worksheet → Worksheet) : Tabs :=
  { t with worksheets := modifyFirst (fun w => w.id = id) f t.worksheets }

/-! ## tabs -/

def tab? (t : Tabs) (id : TabId) : Option QueryTab := t.tabs.find? (·.id = id)

def modifyTab (t : Tabs) (id : TabId) (f : QueryTab → QueryTab) : Tabs :=
  { t with tabs := modifyFirst (fun x => x.id = id) f t.tabs }

/-- the tabs of a worksheet -/
def tabsOf (t : Tabs) (w : WorksheetId) : List QueryTab := t.tabs.filter (·.worksheet = w)

/-- one more than the largest number among the tabs of a worksheet -/
def nextCount (t : Tabs) (w : WorksheetId) : UInt32 :=
  ((t.tabsOf w).map (·.count)).foldl max 0 + 1

/-- a tab with an empty editor, the active one of its worksheet -/
def insertTab (t : Tabs) (x : QueryTab) : Tabs :=
  { t with tabs := t.tabs ++ [x], editors := t.editors.insert x.id Editor.empty }.modifyWorksheet
    x.worksheet fun w => { w with active := some x.id }

/-- without a tab, its editor and its file; if it was active, the last tab left becomes active -/
def removeTab (t : Tabs) (id : TabId) : Tabs :=
  match t.tab? id with
  | none => t
  | some x =>
    let rest : Tabs :=
      { t with
        tabs := t.tabs.eraseP (·.id = id)
        editors := t.editors.erase id
        files := t.files.erase id }
    rest.modifyWorksheet x.worksheet fun w =>
      if w.active = some id then
        { w with active := ((rest.tabsOf x.worksheet).getLast?).map (·.id) }
      else w

/-- without a worksheet and its tabs -/
def removeWorksheet (t : Tabs) (id : WorksheetId) : Tabs :=
  match t.worksheet? id with
  | none => t
  | some _ =>
    let rest := ((t.tabsOf id).map (·.id)).foldl removeTab t
    { rest with worksheets := rest.worksheets.eraseP (·.id = id) }

/-! ## editors and files -/

def edit (t : Tabs) (id : TabId) (e : Editor) : Tabs :=
  { t with editors := t.editors.modify id fun _ => e }

def bindFile (t : Tabs) (id : TabId) (path : String) : Tabs :=
  { t with files := t.files.insert id path }

def unbindFile (t : Tabs) (id : TabId) : Tabs := { t with files := t.files.erase id }

/-! ## the last tab -/

/-- what the first tab of a worksheet is called -/
def firstName : String := "Query Tab 1"

/-- a tab as if it were the first and new: its name, its number, its editor, no file -/
def refreshTab (t : Tabs) (id : TabId) : Tabs :=
  let renamed := t.modifyTab id fun x => { x with name := firstName, count := 1 }
  (renamed.edit id Editor.empty).unbindFile id

end Tabs

end QueryDesk
