import CubeQuery.FieldType
import CubeQuery.SortedMap

/-!
The tables that a database offers, with the types of their columns.
-/

namespace CubeQuery

structure StoreField where
  name : String
  type : FieldType
deriving DecidableEq

structure Store where
  name : String
  fields : List StoreField
deriving DecidableEq

def Store.field? (store : Store) (name : String) : Option StoreField :=
  store.fields.find? (·.name = name)

structure Datastore where
  stores : SortedMap String Store
deriving DecidableEq

namespace Datastore

def ofList (stores : List Store) : Datastore :=
  ⟨.ofList (stores.map fun store => (store.name, store))⟩

def store? (datastore : Datastore) (name : String) : Option Store := datastore.stores.get? name

def names (datastore : Datastore) : List String := datastore.stores.keys

end Datastore

end CubeQuery
