import CubeQuery.Datastore
import CubeQuery.Memory.Row

/-!
A small database of sales in three scenarios, to try queries on.
-/

namespace CubeQuery.Sales

def store : Store :=
  ⟨"sales",
    [⟨"scenario", .string⟩, ⟨"category", .string⟩, ⟨"product", .string⟩, ⟨"price", .double⟩,
     ⟨"quantity", .long⟩, ⟨"year", .long⟩, ⟨"quarter", .long⟩, ⟨"continent", .string⟩,
     ⟨"country", .string⟩, ⟨"city", .string⟩]⟩

def datastore : Datastore := .ofList [store, ⟨"products", [⟨"id", .long⟩, ⟨"label", .string⟩]⟩]

def paris : List String := ["eu", "france", "paris"]

def lyon : List String := ["eu", "france", "lyon"]

def london : List String := ["eu", "uk", "london"]

def nyc : List String := ["am", "usa", "nyc"]

/-- One sale; the price is given in halves. -/
def sale (scenario category product : String) (halves quantity year quarter : Nat)
    (place : List String) : List Value :=
  [.str scenario, .str category, .str product, .float (.ofUnits false (halves * Double.unitsPerOne) 2),
   .int (.ofNat quantity), .int (.ofNat year), .int (.ofNat quarter)] ++ place.map .str

def cells : List (List Value) :=
  [sale "base" "drink" "water" 4 10 2022 4 paris,
   sale "base" "drink" "soda" 6 5 2023 1 lyon,
   sale "base" "food" "bread" 2 20 2023 1 london,
   sale "base" "food" "cheese" 8 2 2023 2 nyc,
   sale "s1" "drink" "water" 5 10 2022 4 paris,
   sale "s1" "drink" "soda" 7 5 2023 1 lyon,
   sale "s1" "food" "bread" 3 20 2023 1 london,
   sale "s1" "food" "cheese" 9 2 2023 2 nyc,
   sale "s2" "drink" "water" 2 10 2022 4 paris,
   sale "s2" "food" "bread" 1 20 2023 1 london]

def rows : List Row := cells.map (Row.ofCells (store.fields.map StoreField.name))

def tables : List (String × List Row) := [("sales", rows)]

end CubeQuery.Sales
