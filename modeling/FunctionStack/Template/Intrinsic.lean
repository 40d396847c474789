import FunctionStack.Value.Basic

/-!
The tables by which one resource of a template refers to another.
-/

namespace FunctionStack.Intrinsic

def ref (id : String) : Value := .obj [("Ref", .str id)]

def getAtt (id member : String) : Value := .obj [("Fn::GetAtt", .arr [.str id, .str member])]

def sub (text : String) : Value := .obj [("Fn::Sub", .str text)]

def join (delimiter : String) (parts : List Value) : Value :=
  .obj [("Fn::Join", .arr [.str delimiter, .arr parts])]

/-- The ARN of a function made from its name, without a reference to its resource. -/
def functionArn (deployedName : String) : Value :=
  sub ("arn:$\x7bAWS::Partition\x7d:lambda:$\x7bAWS::Region\x7d:$\x7bAWS::AccountId\x7d:function:" ++
    deployedName)

end FunctionStack.Intrinsic
