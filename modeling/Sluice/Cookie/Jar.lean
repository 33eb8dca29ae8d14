/-! An ordered multimap of cookies under case-sensitive names. -/

set_option autoImplicit false

namespace Sluice

structure CookieMap (α : Type) where
  entries : List (String × List α)
  deriving DecidableEq, Repr

namespace CookieMap

variable {α : Type}

def empty : CookieMap α := ⟨[]⟩

instance : Inhabited (CookieMap α) := ⟨empty⟩

def addTo (name : String) (cookie : α) : List (String × List α) → List (String × List α)
  | [] => [(name, [cookie])]
  | (other, cookies) :: rest =>
    if other = name then (other, cookies ++ [cookie]) :: rest
    else (other, cookies) :: addTo name cookie rest

/-- Adds a cookie after those of the same name. -/
def add (map : CookieMap α) (name : String) (cookie : α) : CookieMap α :=
  ⟨addTo name cookie map.entries⟩

def getAll (map : CookieMap α) (name : String) : List α :=
  ((map.entries.find? (·.1 == name)).map (·.2)).getD []

def getFirst? (map : CookieMap α) (name : String) : Option α := (map.getAll name).head?

def size (map : CookieMap α) : Nat := map.entries.length

/-- Every cookie, name by name in the order of the names' first insertion. -/
def values (map : CookieMap α) : List α := map.entries.flatMap (·.2)

end CookieMap

end Sluice
