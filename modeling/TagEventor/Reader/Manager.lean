import TagEventor.Lib.Loop
import TagEventor.Reader.Driver

/-!
# The reader manager

`tagReader.c`: the functions that enumerate the readers, connect to them, read their tags and
disconnect. Each is a function of the environment and the world, in the order of the source.
`pManager` is `readerManager` throughout. A loop body is a definition of its own; the loops run up
to `nbReaders`, which no loop body changes.
-/

namespace TagEventor

/-- `readersInit`, followed by the reader setting of the command line. -/
def readersInit (readerSetting : BitVec 32) : tReaderManager where
  nbReaders := 0
  readers := fun _ => .reset
  mszReaders := none
  hContext := none
  tagList := .empty
  readerSetting

/-- The world in which `main` starts to poll. -/
def World.init (readerSetting : BitVec 32) : World where
  readerManager := readersInit readerSetting
  previousTagList := .empty
  log := []
  events := []
  callbacks := []
  mszHeap := []
  tagHeap := []
  dataHeap := []

/-- `pManager->readers[pManager->nbReaders].name = ptr; (pManager->nbReaders)++`. -/
def tReaderManager.addName (m : tReaderManager) (ptr : NamePtr) : tReaderManager :=
  let reader := { m.readers m.nbReaders with name := some ptr }
  { m with readers := Function.update m.readers m.nbReaders reader, nbReaders := m.nbReaders + 1 }

/-- The walk over the multi-string that points the names of `readers[]` into it and counts them. -/
def extractNames (msz : Multistring) : Nat → Nat → tReaderManager → tReaderManager
  | 0, _, m => m
  | fuel + 1, ptr, m =>
    if (msz.chars.drop ptr).head? = some '\x00' ∨ msz.chars.drop ptr = [] then m
    else
      extractNames msz fuel (ptr + strlen (msz.chars.drop ptr) + 1) (m.addName ⟨msz.block, ptr⟩)

/-- What `readersEnumerate` does with the list that was read into `mszReaders`. -/
def World.extractReaders (w : World) (names : List ReaderName) : World :=
  match w.readerManager.mszReaders with
  | none => w
  | some msz =>
    let msz := { msz with chars := multiString names }
    let m := { w.readerManager with mszReaders := some msz, nbReaders := 0 }
    { w with readerManager := extractNames msz msz.chars.length 0 m }

/-- Zero out the readers that are not listed any more. -/
def World.resetLost (w : World) (previousNumReaders : Nat) : World :=
  (List.range' w.readerManager.nbReaders
    (previousNumReaders - w.readerManager.nbReaders)).foldl World.RESET_READER w

/-- The case of no readers: zero everything out. -/
def World.noReaders (w : World) : World :=
  let w := { w with readerManager := { w.readerManager with nbReaders := 0 } }
  let w := w.freeMszReaders
  { w with readerManager := { w.readerManager with mszReaders := none } }

/-- The names of the readers are asked for twice: for their length, and into a new buffer. -/
def readersEnumerate (env : Env) (w : World) : LONG × World :=
  let previousNumReaders := w.readerManager.nbReaders
  -- a null buffer asks for the number of bytes to allocate
  match SCardListReaders env none w with
  | ((rv, names), w) =>
    if rv ≠ SCARD_S_SUCCESS then
      if rv = SCARD_E_NO_READERS_AVAILABLE then (rv, w.noReaders) else (rv, w)
    else
      let dwReaders := (multiString names).length
      let w := w.freeMszReaders.mallocMszReaders
      match SCardListReaders env (some dwReaders) w with
      | ((rv, names), w) =>
        if rv ≠ SCARD_S_SUCCESS then (rv, w)
        else (SCARD_S_SUCCESS, (w.extractReaders names).resetLost previousNumReaders)

/-- A context is established and, where it is, the readers are listed. -/
def readersManagerConnect (env : Env) (w : World) : LONG × World :=
  let answer := env.SCardEstablishContext w.log
  let w := w.record (.SCardEstablishContext answer.1)
  if answer.1 ≠ SCARD_S_SUCCESS then
    let w := { w with readerManager := { w.readerManager with hContext := none } }
    (answer.1, w.eventDispatch .PCSCD_FAIL 0)
  else
    let w := { w with readerManager := { w.readerManager with hContext := some answer.2 } }
    readersEnumerate env (w.eventDispatch .PCSCD_CONNECT 0)

/-- The context is released, with the buffer of the names. -/
def readersManagerDisconnect (env : Env) (w : World) : LONG × World :=
  match w.readerManager.hContext with
  | none => (SCARD_E_INVALID_PARAMETER, w.eventDispatch .PCSCD_DISCONNECT 0)
  | some _ =>
    let rv := env.SCardReleaseContext w.log
    let w := (w.record (.SCardReleaseContext rv)).freeMszReaders
    let w := { w with readerManager :=
      { w.readerManager with mszReaders := none, hContext := none } }
    (rv, w.eventDispatch .PCSCD_DISCONNECT 0)

/-- One call of a driver's `readerCheck` on `readers[num]`. -/
def World.readerCheck (env : Env) (driver : tReaderDriver) (num : Nat) (w : World) :
    (LONG × Bool) × World :=
  let name := (w.nameText env num).getD []
  match w.onCard env num (driver.readerCheck (w.reader num) name (env.stack w.log num)) with
  | ((rv, supported, pReader), w) =>
    ((rv, supported), (w.record (.readerCheck num rv supported)).setReader num pReader)

/-- Query the drivers in the list until one of them can handle the reader. -/
def checkDrivers (env : Env) (num : Nat) : List tReaderDriver → LONG → World →
    (LONG × Option tReaderDriver) × World
  | [], rv, w => ((rv, none), w)
  | driver :: drivers, _, w =>
    match w.readerCheck env driver num with
    | ((rv, supported), w) =>
      if supported then ((rv, some driver), w) else checkDrivers env num drivers rv w

/-- The loop body of `readersConnect`; `some rv` when it returns from the function. -/
def connectReader (env : Env) (num : Nat) (w : World) : Option LONG × World :=
  -- if we are not already connected and should be trying then do so
  if (w.reader num).hCard = none ∧ w.readerManager.wanted num then
    match SCardConnect env num w with
    | (rv, w) =>
      if rv = SCARD_S_SUCCESS then
        match checkDrivers env num readerDriverTable rv (w.eventDispatch .READER_DETECTED num) with
        | ((rv, driver), w) =>
          if rv ≠ SCARD_S_SUCCESS then (some rv, w.RESET_READER num)
          else
            match driver with
            -- no driver knows how to handle this reader
            | none =>
              (some SCARD_E_UNKNOWN_READER, w.setReader num { w.reader num with pDriver := none })
            | some driver =>
              let w := w.setReader num
                { w.reader num with
                  pDriver := some driver, driverDescriptor := some driver.driverDescriptor }
              (none, w.eventDispatch .READER_DETECTED num)
      else (none, w.RESET_READER num)
  else (none, w)

/-- `if ( automatic ) rv = readersEnumerate( pManager )`: the readers may have changed. -/
def enumerateIfAutomatic (env : Env) (w : World) : LONG × World :=
  if w.readerManager.automatic then readersEnumerate env w else (SCARD_S_SUCCESS, w)

/-- The readers that are wanted are connected, one after the other. -/
def readersConnect (env : Env) (w : World) : LONG × World :=
  match enumerateIfAutomatic env w with
  | (rv, w) =>
    if rv ≠ SCARD_S_SUCCESS then (rv, w)
    else if w.readerManager.nbReaders = 0 then (SCARD_E_NO_READERS_AVAILABLE, w)
    else
      match Loop.scan (connectReader env) (List.range w.readerManager.nbReaders) w with
      | (some rv, w) => (rv, w)
      | (none, w) => (SCARD_S_SUCCESS, w)

/-- The loop body of `readersDisconnect`. -/
def disconnectReader (env : Env) (w : World) (i : Nat) : World :=
  if (w.reader i).hCard ≠ none then
    ((SCardDisconnect env i w).2.RESET_READER i).eventDispatch .READER_DISCONNECT i
  else w

/-- The readers are disconnected one after the other. -/
def readersDisconnect (env : Env) (w : World) : World :=
  if w.readerManager.hContext = none then w
  else
    match enumerateIfAutomatic env w with
    | (rv, w) =>
      if rv ≠ SCARD_S_SUCCESS then w
      else (List.range w.readerManager.nbReaders).foldl (disconnectReader env) w

/-- A temporary array of tags: its block and its entries. -/
structure TempArray where
  block : Nat
  tags : Nat → tTag

/-- The locals of `readersGetTagList` beside the world: `rv` and `pTags`. -/
structure ReadLoop where
  world : World
  rv : LONG
  pTags : Nat → Option TempArray

/-- What a freshly allocated array of tags holds; no entry is read before it is written. -/
def uninitialisedTags : Nat → tTag := fun _ => ⟨.empty, .UNKNOWN_TYPE, []⟩

/-- `malloc` of an array of tags: its block. -/
def World.mallocTags (w : World) : Nat × World :=
  (w.tagHeap.length, { w with tagHeap := w.tagHeap ++ [.acquire w.tagHeap.length] })

/-- `free` of an array of tags. -/
def World.freeTags (w : World) (block : Nat) : World :=
  { w with tagHeap := w.tagHeap ++ [.release block] }

/-- Assign to `pManager->tagList`. -/
def World.setTagList (w : World) (l : tTagList TagArray) : World :=
  { w with readerManager := { w.readerManager with tagList := l } }

/-- Assign to `pManager->readers[i].tagList`. -/
def World.setReaderTagList (w : World) (i : Nat) (l : tTagList TagPtr) : World :=
  w.setReader i { w.reader i with tagList := l }

/-- One call of a driver's `getTagList` on `readers[i]`. -/
def World.getTagList (env : Env) (driver : tReaderDriver) (i : Nat) (w : World) :
    (LONG × (Nat → tTag)) × World :=
  match w.onCard env i (driver.getTagList (env.stack w.log i) uninitialisedTags) with
  | ((rv, numTags, tags), w) =>
    let w := w.record (.getTagList i rv ((List.range numTags).map tags))
    ((rv, tags), w.setReaderTagList i { (w.reader i).tagList with numTags })

/-- `pManager->tagList.numTags += pManager->readers[i].tagList.numTags`. -/
def World.addNumTags (w : World) (i : Nat) : World :=
  w.setTagList { w.readerManager.tagList with
    numTags := w.readerManager.tagList.numTags + (w.reader i).tagList.numTags }

/-- `pTags[i] = NULL` and `pManager->readers[i].tagList.numTags = 0`. -/
def ReadLoop.clear (s : ReadLoop) (i : Nat) : ReadLoop :=
  { s with
    world := s.world.setReaderTagList i { (s.world.reader i).tagList with numTags := 0 }
    pTags := Function.update s.pTags i none }

/-- Call the reader's driver to read the list of reader `i` into a new array. -/
def ReadLoop.readList (env : Env) (driver : tReaderDriver) (i : Nat) (s : ReadLoop) : ReadLoop :=
  let (block, w) := s.world.mallocTags
  match w.getTagList env driver i with
  | ((rv, tags), w) =>
    if rv ≠ SCARD_S_SUCCESS then
      let w := (w.RESET_READER i).freeTags block
      { world := w.addNumTags i, rv, pTags := s.pTags }
    else { world := w.addNumTags i, rv, pTags := Function.update s.pTags i (some ⟨block, tags⟩) }

/-- The body of the read loop of `readersGetTagList`. -/
def readReader (env : Env) (s : ReadLoop) (i : Nat) : ReadLoop :=
  let s := s.clear i
  -- check we are connected, have a driver and should be reading it
  match (s.world.reader i).hCard, (s.world.reader i).pDriver, s.world.readerManager.wanted i with
  | some _, some driver, true => s.readList env driver i
  | _, _, _ => s

/-- The body of the merge loop: it extends the array by the tags of reader `i`. -/
def mergeReader (block : Nat) (pTags : Nat → Option TempArray) (s : List tTag × World) (i : Nat) :
    List tTag × World :=
  let w := s.2.setReaderTagList i
    { (s.2.reader i).tagList with pTags := some ⟨block, s.1.length⟩ }
  match pTags i with
  | none => (s.1, w)
  | some a => (s.1 ++ (List.range (w.reader i).tagList.numTags).map a.tags, w.freeTags a.block)

/-- Mash the lists of the readers up into one big list. -/
def mergeTags (pTags : Nat → Option TempArray) (w : World) : World :=
  let w := w.setTagList { w.readerManager.tagList with pTags := none }
  if w.readerManager.tagList.numTags > 0 then
    let (block, w) := w.mallocTags
    let (tags, w) := (List.range w.readerManager.nbReaders).foldl (mergeReader block pTags) ([], w)
    w.setTagList { w.readerManager.tagList with pTags := some ⟨block, tags⟩ }
  else w

/-- The part of `readersGetTagList` after the connection phase, which ended with `rv`. -/
def readTags (env : Env) (rv : LONG) (w : World) : LONG × World :=
  -- before we start, reset the total count to 0
  let w := w.setTagList { w.readerManager.tagList with numTags := 0 }
  let s := (List.range w.readerManager.nbReaders).foldl (readReader env) ⟨w, rv, fun _ => none⟩
  (s.rv, mergeTags s.pTags s.world)

/-- `if ( automatic ) rv = readersConnect( pManager )`: the connection phase. -/
def connectIfAutomatic (env : Env) (w : World) : LONG × World :=
  if w.readerManager.automatic then readersConnect env w else (SCARD_S_SUCCESS, w)

/-- The tags of all readers are read into one list; in AUTO mode the readers are connected first. -/
def readersGetTagList (env : Env) (w : World) : LONG × World :=
  if w.readerManager.hContext = none then (SCARD_E_INVALID_PARAMETER, w)
  else
    match connectIfAutomatic env w with
    | (rv, w) => if rv ≠ SCARD_S_SUCCESS then (rv, w) else readTags env rv w

end TagEventor
