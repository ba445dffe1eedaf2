import CommandVerbs.Config.File

/-!
# Configuration stores

A store keeps pairs of texts, either in memory only or in a file. Both answer questions alike; they
differ in the keys that they accept and in what a change can run into.
-/

namespace CommandVerbs.Config

inductive Store where
  | memory (pairs : KeyMap String)
  | file (store : FileStore)
  deriving Inhabited

namespace Store

def pairs : Store → KeyMap String
  | .memory pairs => pairs
  | .file store => store.pairs

/-- The value under a key. -/
def get? (store : Store) (key : String) : Option String :=
  store.pairs.get? key

/-- The pairs whose keys lie under a filter, in key order. -/
def query (store : Store) (filter : Option String) : List (String × String) :=
  store.pairs.toList.filter fun pair => selected filter pair.1

/-- Binds a key in memory; a blank key is refused. -/
def setPair (pairs : KeyMap String) (key value : String) : Except ConfigFault (KeyMap String) :=
  if Text.trim key = "" then .error (.malformed "empty key") else .ok (pairs.insert key value)

/-- Binds a key. -/
def set (store : Store) (files : FileTree) (key value : String) :
    Store × FileTree × Except ConfigFault Unit :=
  match store with
  | .memory pairs =>
    match setPair pairs key value with
    | .ok pairs => (.memory pairs, files, .ok ())
    | .error fault => (.memory pairs, files, .error fault)
  | .file store =>
    let (store, files, result) := store.set files key value
    (.file store, files, result)

/-- Removes a key; says whether there was one. -/
def remove (store : Store) (files : FileTree) (key : String) :
    Store × FileTree × Except ConfigFault Bool :=
  match store with
  | .memory pairs => (.memory (pairs.erase key), files, .ok (pairs.contains key))
  | .file store =>
    let (store, files, result) := store.remove files key
    (.file store, files, result)

end Store

end CommandVerbs.Config
