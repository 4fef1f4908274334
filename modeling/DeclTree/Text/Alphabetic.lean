import DeclTree.Text.Category

/-!
# Letters and words

Data of the Unicode character database: the property Alphabetic, in runs of yes and no. With the
general categories it gives the characters that make up words.
-/

namespace DeclTree.Text

def alphabeticRuns : Array (Nat × String) := unpackRuns
  ["65n26y6n26y47n1y10n1y4n1y5n23y1n31y1n458y4n12y14n5y7n1y1n1y86n1y42n5y1n2y2n4y1n1y6n1y1n3y1n1y",
  "1n20y1n83y1n139y8n166y1n38y2n1y6n41y39n14y1n1y1n2y1n2y1n1y8n27y4n4y29n11y5n56y1n7y14n102y1n8y",
  "4n8y4n3y10n3y2n1y16n48y13n101y24n33y9n2y4n1y5n24y2n19y19n25y7n11y5n24y1n6y17n42y10n12y3n7y6n",
  "76y1n16y1n3y4n15y13n19y1n8y2n2y2n22y1n7y1n1y3n4y3n8y2n2y2n2y1n1y8n1y4n2y1n5y12n2y10n1y4n3y1n6y",
  "4n2y2n22y1n7y1n2y1n2y1n2y4n5y4n2y2n2y4n1y7n4y1n1y17n6y11n3y1n9y1n3y1n22y1n7y1n2y1n5y3n9y1n3y1n",
  "2y3n1y15n4y21n4y4n3y1n8y2n2y2n22y1n7y1n2y1n5y3n8y2n2y2n2y9n2y4n2y1n5y13n1y16n2y1n6y3n3y1n4y3n",
  "2y1n1y1n2y3n2y3n3y3n12y4n5y3n3y1n3y3n1y6n1y40n13y1n3y1n23y1n16y3n8y1n3y1n3y8n2y1n3y2n1y2n4y28n",
  "4y1n8y1n3y1n23y1n10y1n5y3n8y1n3y1n3y8n2y6n2y1n4y13n3y12n13y1n3y1n41y2n8y1n3y1n3y1n1y5n4y7n5y",
  "22n6y1n3y1n18y3n24y1n9y1n1y2n7y8n6y1n1y1n8y18n2y13n58y5n7y6n1y51n2y1n1y1n5y1n24y1n1y1n19y1n3y",
  "2n5y1n1y6n1y14n4y32n1y63n8y1n36y4n19y4n16y1n36y67n55y1n1y2n5y16n64y10n4y2n38y1n1y5n1y2n43y1n",
  "333y1n4y2n7y1n1y1n4y2n41y1n4y2n33y1n4y2n7y1n1y1n4y2n15y1n57y1n4y2n67y37n16y16n86y2n6y3n620y2n",
  "17y1n26y5n75y3n11y7n20y11n21y12n20y12n13y1n3y1n2y12n52y2n19y14n1y4n1y67n89y7n43y5n70y10n31y1n",
  "12y4n9y23n30y2n5y11n44y4n26y54n28y4n63y2n20y50n1y23n2y11n3y49n52y1n15y1n8y51n42y2n4y10n44y1n",
  "11y14n55y22n3y10n36y2n9y7n43y2n3y41n4y1n6y1n2y3n1y5n192y39n14y11n278y2n6y2n38y2n6y2n8y1n1y1n1y",
  "1n1y1n31y2n53y1n7y1n1y3n3y1n7y3n4y2n6y4n13y5n3y1n7y116n1y13n1y16n13y101n1y4n1y2n10y1n1y3n5y6n",
  "1y1n1y1n1y1n4y1n11y2n4y5n5y4n1y17n41y813n52y1814n229y6n4y3n2y12n38y1n1y5n1y2n56y7n1y16n23y9n7y",
  "1n7y1n7y1n7y1n7y1n7y1n7y1n7y1n32y47n1y469n3y25n9y7n5y2n5y4n86y6n3y1n90y1n4y5n43y1n94y17n32y48n",
  "16y512n6592y64n22157y67n46y2n269y3n16y10n2y20n47y5n8y3n113y39n9y2n103y2n64y5n2y1n1y1n5y24n20y",
  "1n33y24n52y12n68y1n1y44n6y3n1y1n3y10n33y5n35y13n29y3n51y1n12y15n1y16n16y10n5y1n55y9n14y18n23y",
  "3n69y1n1y1n1y24n3y2n16y2n4y11n6y2n6y2n6y9n7y1n7y1n43y1n14y6n123y21n11172y12n23y4n49y8452n366y",
  "2n106y38n7y12n5y5n12y1n13y1n5y1n1y1n2y1n2y1n108y33n363y18n64y2n54y40n12y116n5y1n135y36n26y6n",
  "26y11n89y3n6y2n6y2n6y2n3y35n12y1n26y1n19y1n2y1n15y2n14y34n123y69n53y267n29y3n49y47n32y13n30y5n",
  "43y5n30y2n36y4n8y1n5y42n158y18n36y4n36y4n40y8n52y12n11y1n15y1n7y1n2y1n11y1n15y1n7y1n2y67n311y",
  "9n22y10n8y24n6y1n42y1n9y69n6y2n1y1n44y1n2y3n1y2n23y10n23y9n31y65n19y1n2y10n22y10n26y70n56y6n2y",
  "64n4y1n2y5n8y1n3y1n29y42n29y3n29y35n8y1n28y27n54y10n22y10n19y13n18y110n73y55n51y13n51y13n40y",
  "344n42y1n2y3n2y78n29y10n1y8n22y42n18y46n21y27n23y9n70y43n5y10n57y9n1y13n25y23n51y17n4y8n35y3n",
  "1y9n64y1n4y9n2y10n1y1n1y35n18y1n34y2n1y6n4y62n7y1n1y1n4y1n15y1n10y7n57y23n4y1n8y2n2y2n22y1n7y",
  "1n2y1n5y3n8y2n2y2n2y3n1y6n1y5n7y156n66y1n3y1n4y20n3y30n66y2n2y1n1y184n54y2n7y25n6y34n63y1n1y3n",
  "1y59n54y2n1y71n27y2n14y21n7y185n57y103n64y31n8y2n1y2n8y1n2y1n30y1n2y2n2y2n4y93n8y2n46y2n6y1n1y",
  "1n2y27n51y2n10y17n72y5n1y18n73y263n9y1n45y1n7y1n1y49n30y2n22y1n14y73n7y1n2y1n44y3n1y1n2y1n3y1n",
  "1y2n2y24n6y1n2y1n37y1n2y1n4y1n1y327n23y9n17y1n41y3n3y111n1y79n922y102n111y17n196y2636n97y15n",
  "1072y17n6y4025n583y8633n569y7n31y17n79y17n30y18n48y16n4y31n21y5n19y688n64y128n75y4n57y7n17y64n",
  "2y1n1y12n2y14n6136y8n1238y42n9y8935n4y1n7y1n2y1n291y15n1y29n3y2n1y14n4y8n396y2308n107y5n13y3n",
  "9y7n10y4n1y5985n85y1n71y1n2y2n1y2n2y2n4y1n12y1n1y1n7y1n65y1n4y2n8y1n7y1n28y1n4y1n5y1n1y3n7y1n",
  "340y2n25y1n25y1n31y1n25y1n31y1n25y1n31y1n25y1n31y1n25y1n8y1844n31y6n6y213n7y1n17y2n7y1n2y1n5y",
  "5n62y33n1y112n45y10n7y16n1y321n30y18n44y484n28y756n7y1n4y1n2y1n15y1n197y59n68y3n1y3n1y1204n4y",
  "1n27y1n2y1n1y2n1y1n10y1n4y1n1y1n1y6n1y4n1y1n1y1n1y1n3y1n2y1n1y2n1y1n1y1n1y1n1y1n1y1n2y1n1y2n4y",
  "1n7y1n4y1n4y1n1y1n10y1n17y5n3y1n5y1n17y628n26y6n26y6n26y3702n42720y32n4154y6n222y2n5762y14n",
  "7473y3103n542y1506n4939y5n4192y908368n"]

def isAlphabetic (n : Nat) : Bool := valueAt alphabeticRuns n == "y"

/-- Letters and numbers of any script. -/
def isAlphanumeric (n : Nat) : Bool := isAlphabetic n || inCategory "N" n

/-- The characters of words: letters, marks, decimal digits, connecting punctuation and the two
joiners. -/
def isWordChar (n : Nat) : Bool :=
  if n < 0x80 then
    (0x30 ≤ n && n ≤ 0x39) || (0x41 ≤ n && n ≤ 0x5A) || n == 0x5F || (0x61 ≤ n && n ≤ 0x7A)
  else
    isAlphabetic n || inCategory "M" n || inCategory "Nd" n || inCategory "Pc" n || n == 0x200C ||
      n == 0x200D

end DeclTree.Text
