import LateBinding.Engine

/-!
# The sample type

A small type for demonstrations: two fields, a constructor that sets them and a method that prints
them.
-/

namespace LateBinding
namespace Sample

/-- The name of the type. -/
def typeName : String :=
  "com.lee.demo.Foo"

/-- The method that prints. -/
def methodName : String :=
  "test"

/-- The arguments of the constructor for the demonstration. -/
def constructorArguments : List String :=
  ["24", "sample"]

/-- The line that the method prints in the demonstration. -/
def output : String :=
  "24 sample"

/-- The description of the type; its method is empty until the printing is put in front. -/
def description : Except BuildError TypeDescription := do
  let fresh := TypeDescription.new typeName
  let withId ← fresh.addField "id" .int .privateAccess
  let withName ← withId.addField "name" .string .protectedAccess
  let withConstructor ← withName.setConstructor [.int, .string]
    (.source "\x7b this.id = $1; this.name = $2; \x7d")
  let withMethod ← withConstructor.addMethod methodName .void [] (.source "\x7b\x7d")
  withMethod.insertBefore methodName []
    (.source "\x7b System.out.println(id + \" \" + name); \x7d")

end Sample
end LateBinding
