import StepPipeline.Catalogue.Table

/-!
The classes that are there from the beginning: the class that all inherit from, the base of the
contracts, the base of all catalogues, the three contracts, a class in no catalogue, and the
catalogue of world operations.
-/

set_option autoImplicit false

namespace StepPipeline.Catalogue

def givenClass (home name : String) (bases order : List ClassId) : ClassInfo :=
  { name, home, qualifiedName := name, bases, order }

/-- A class that was there from the beginning and inherits from nothing else. -/
def openClass (home name : String) (id : ClassId) : ClassInfo :=
  { givenClass home name [objectId] [id, objectId] with references := some id }

def contractClass (shape : Shape) : ClassInfo :=
  { givenClass "enum_pipeline.execute" shape.contract [contractBaseId]
      [contractId shape, contractBaseId, objectId] with
    contractual := true
    dispatch := some (.demanded shape)
    references := some (contractId shape) }

def mixinId : ClassId := 6

def worldOpId : ClassId := 7

structure WorldVariant where
  name : String
  fields : List String
  /-- The part of a world that its execution needs first. -/
  needed : String := "grid"

def worldVariants : List WorldVariant :=
  [{ name := "Deposit", fields := ["x", "y", "amount"] },
    { name := "Diffuse", fields := ["rate"] },
    { name := "Decay", fields := ["half_life_s"] },
    { name := "Clear", fields := [] },
    { name := "Advance", fields := [], needed := "time_s" }]

def depositId : ClassId := 8

def worldHome : String := "enum_pipeline.sim.ops"

def worldOrder : List ClassId :=
  [worldOpId, catalogueId, contractId .pair, contractBaseId, objectId]

def worldVariantClass (id : ClassId) (variant : WorldVariant) : ClassInfo :=
  { givenClass worldHome variant.name [worldOpId] (id :: worldOrder) with
    contractual := true
    fields := some
      { all := variant.fields.map fun field => ⟨field, none⟩, owner := variant.name }
    references := some catalogueId }

def worldOpClass : ClassInfo :=
  { givenClass worldHome "WorldOp" [catalogueId, contractId .pair] worldOrder with
    contractual := true
    isRoot := true
    variants := List.range' depositId worldVariants.length
    dispatch := some .world
    references := some catalogueId }

def ClassTable.initial : ClassTable where
  classes :=
    [givenClass ClassTable.builtinHome "object" [] [objectId],
      { givenClass "abc" "ABC" [objectId] [contractBaseId, objectId] with contractual := true },
      openClass "enum_pipeline.catalogue" "Catalogue" catalogueId] ++
      Shape.all.map contractClass ++
      [openClass "m" "Mixin" mixinId, worldOpClass] ++
      (worldVariants.zipIdx depositId).map fun entry =>
        worldVariantClass entry.2 entry.1

def initialNames : List (String × ClassId) :=
  [("Catalogue", catalogueId), ("Mixin", mixinId), ("WorldOp", worldOpId), ("Deposit", depositId)]
    ++ Shape.all.map fun shape => (shape.contract, contractId shape)

end StepPipeline.Catalogue
