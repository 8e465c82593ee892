import Mathlib.Logic.Function.Iterate
import TagEventor.Reader.Manager

/-!
# The poll function

`tagEventor.c`: the dispatch of tag events, `processTagLists` and `tagListCheck`. The rules table,
the system tray and the explorer only observe these events and are left out here (the scripts that
the table starts for them are a component of their own, `Rules.Dispatch`). `tagListCheck` always
returns `TRUE` ("keep calling me"), so here it returns the world only; the part of it that comes
before `processTagLists` is `pollTagLists`, whose flag says whether `processTagLists` is reached.
-/

namespace TagEventor

/-- There is no context. -/
def TAGEVENTOR_STRING_PCSCD_PROBLEM : CString :=
  "Problems connecting to pcscd daemon, check it is running using 'ps -ef' command".toList

/-- No tag could be read. -/
def TAGEVENTOR_STRING_PCSCD_OK_READER_NOT (nbReaders : Nat) : CString :=
  "Connected to pcscd, ".toList ++ Nat.toDigits 10 nbReaders ++
    " readers found.\nCould not connect to reader(s)".toList

/-- A change of the tags. -/
def TAGEVENTOR_STRING_CONNECTED_READER (nbReaders numTags : Nat) : CString :=
  "Connected to pcscd, ".toList ++ Nat.toDigits 10 nbReaders ++ " readers, ".toList ++
    Nat.toDigits 10 numTags ++ " tags".toList

/-- A tag in a list of tags. -/
def TAGEVENTOR_STRING_TAG_LINE (uid : CString) : CString :=
  "Tag UID: ".toList ++ uid ++ "  ".toList

/-- What every tag is said to contain. -/
def testTag : tTagContents := ⟨some .testData, 9, none⟩

/-- The contents of a tag that leaves are freed; the pointer may be one to a literal. -/
def tagDetachData (pTag : tTag) (w : World) : tTag × World :=
  ({ pTag with contents := .empty },
    match pTag.contents.pData with
    | none => w
    | some p => { w with dataHeap := w.dataHeap ++ [.release p] })

/-- A tag that comes gets a pointer to the literal and a block that is allocated. -/
def tagAttachData (pTag : tTag) (w : World) : tTag × World :=
  let hook := DataPtr.heap w.dataHeap.length
  ({ pTag with contents := { testTag with extensionHook := some hook } },
    { w with dataHeap := w.dataHeap ++ [.acquire hook] })

/-- `eventDispatch` of a tag event; `TAG_IN` attaches the contents, `TAG_OUT` detaches them. -/
def eventDispatch (eventType : tEventType) (pTag : tTag) (w : World) : tTag × World :=
  let w := { w with events := w.events ++ [⟨eventType, some pTag.uid, 0⟩] }
  match eventType with
  | .TAG_IN => tagAttachData pTag w
  | .TAG_OUT => tagDetachData pTag w
  | _ => (pTag, w)

/-- `if ( callBack ) (*callBack)( .. )`. -/
def World.callBack (w : World) (callBack connected : Bool) (generalMessage tagsMessage : CString) :
    World :=
  if callBack then
    { w with callbacks := w.callbacks ++ [⟨connected, generalMessage, tagsMessage⟩] }
  else w

/-- Copy over the attached data of a previous tag to a current one of the same UID. -/
def copyContents (previous current : tTag) : tTag :=
  if previous.uid = current.uid then { current with contents := previous.contents } else current

/-- The state of the first loop: the current list, `listChanged` and the world. -/
structure Diff where
  current : List tTag
  listChanged : Bool
  world : World

/-- For each tag that was here before see if it is now missing; returns the list walked over. -/
def outLoop : List tTag → Diff → List tTag × Diff
  | [], s => ([], s)
  | p :: ps, s =>
    let found := s.current.any fun c => p.uid = c.uid
    let s := { s with current := s.current.map (copyContents p) }
    if found then
      let r := outLoop ps s
      (p :: r.1, r.2)
    else
      let d := eventDispatch .TAG_OUT p s.world
      let r := outLoop ps { s with listChanged := true, world := d.2 }
      (d.1 :: r.1, r.2)

/-- Check for tags that are here now; returns the list walked over. -/
def inLoop (previous : List tTag) : List tTag → Bool × World → List tTag × (Bool × World)
  | [], s => ([], s)
  | c :: cs, s =>
    if previous.any fun p => p.uid = c.uid then
      let r := inLoop previous cs s
      (c :: r.1, r.2)
    else
      let d := eventDispatch .TAG_IN c s.2
      let r := inLoop previous cs (true, d.2)
      (d.1 :: r.1, r.2)

/-- Write back the entries of a list after a loop over them. -/
def tTagList.setEntries (l : tTagList TagArray) (entries : List tTag) : tTagList TagArray :=
  { l with pTags := l.pTags.map fun a => { a with tags := entries ++ a.tags.drop l.numTags } }

/-- The two lists are compared by the UIDs, with an event for each difference. -/
def processTagLists (callBack : Bool) (w : World) : World :=
  let out := outLoop w.previousTagList.entries ⟨w.readerManager.tagList.entries, false, w⟩
  let inn := inLoop out.1 out.2.current (out.2.listChanged, out.2.world)
  let w := { inn.2.2 with previousTagList := w.previousTagList.setEntries out.1 }
  let w := w.setTagList (w.readerManager.tagList.setEntries inn.1)
  if inn.2.1 then
    w.callBack callBack true
      (TAGEVENTOR_STRING_CONNECTED_READER w.readerManager.nbReaders w.readerManager.tagList.numTags)
      (w.readerManager.tagList.uids.flatMap TAGEVENTOR_STRING_TAG_LINE)
  else w

/-- If not connected to pcscd, try and connect; the flag is `false` when there is nothing else to
do for now. -/
def connectPcscd (env : Env) (callBack : Bool) (w : World) : Bool × World :=
  if w.readerManager.hContext = none then
    match readersManagerConnect env w with
    | (rv, w) =>
      if rv ≠ SCARD_S_SUCCESS then
        (false, w.callBack callBack false TAGEVENTOR_STRING_PCSCD_PROBLEM [])
      -- try and connect to the specified readers on first connect
      else (true, (readersConnect env w).2)
  else (true, w)

/-- Free the previous list and make `previous` be `current`, which becomes empty. -/
def World.shiftTagLists (w : World) : World :=
  let w := match w.previousTagList.pTags with
    | none => w
    | some a => w.freeTags a.block
  { w with previousTagList := w.readerManager.tagList }.setTagList .empty

/-- `tagListCheck` up to the call of `processTagLists`; the flag says whether it is reached. -/
def pollTagLists (env : Env) (callBack : Bool) (w : World) : Bool × World :=
  match connectPcscd env callBack w with
  | (false, w) => (false, w)
  | (true, w) =>
    match readersGetTagList env w.shiftTagLists with
    | (rv, w) =>
      if rv ≠ SCARD_S_SUCCESS then
        (false, w.callBack callBack false
          (TAGEVENTOR_STRING_PCSCD_OK_READER_NOT w.readerManager.nbReaders) [])
      else (true, w)

/-- A poll. -/
def tagListCheck (env : Env) (callBack : Bool) (w : World) : World :=
  match pollTagLists env callBack w with
  | (false, w) => w
  | (true, w) => processTagLists callBack w

/-- The world after `n` polls, from the start of the program. -/
def polls (env : Env) (callBack : Bool) (readerSetting : BitVec 32) (n : Nat) : World :=
  (tagListCheck env callBack)^[n] (World.init readerSetting)

end TagEventor
