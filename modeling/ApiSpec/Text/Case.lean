import ApiSpec.Text.Ranges

/-!
# Letter case

The Unicode `Uppercase` and `Lowercase` properties, and the full case mappings of a single
character (a few characters map to several: `ß` upper-cases to `SS`). Whole strings map
character by character, except that a capital sigma that ends a word lower-cases to the final
form `ς`: it follows a cased letter (over case-ignorable ones) and no cased letter follows it.

A mapping table is text of runs `lo-hi-stride-delta` in hex, the delta with a sign `p` or `m`:
each code point from `lo` to `hi` in steps of `stride` maps to itself plus the delta. The
mappings to several characters follow as `from:to to …`.
-/

namespace ApiSpec

namespace Text

/-- The `Uppercase` code points. -/
def uppercaseTable : Ranges := Ranges.ofText <|
  "41-5A,C0-D6,D8-DE,100-100,102-102,104-104,106-106,108-108,10A-10A,10C-10C,10E-10E,110-11"
  ++ "0,112-112,114-114,116-116,118-118,11A-11A,11C-11C,11E-11E,120-120,122-122,124-124,126-12"
  ++ "6,128-128,12A-12A,12C-12C,12E-12E,130-130,132-132,134-134,136-136,139-139,13B-13B,13D-13"
  ++ "D,13F-13F,141-141,143-143,145-145,147-147,14A-14A,14C-14C,14E-14E,150-150,152-152,154-15"
  ++ "4,156-156,158-158,15A-15A,15C-15C,15E-15E,160-160,162-162,164-164,166-166,168-168,16A-16"
  ++ "A,16C-16C,16E-16E,170-170,172-172,174-174,176-176,178-179,17B-17B,17D-17D,181-182,184-18"
  ++ "4,186-187,189-18B,18E-191,193-194,196-198,19C-19D,19F-1A0,1A2-1A2,1A4-1A4,1A6-1A7,1A9-1A"
  ++ "9,1AC-1AC,1AE-1AF,1B1-1B3,1B5-1B5,1B7-1B8,1BC-1BC,1C4-1C4,1C7-1C7,1CA-1CA,1CD-1CD,1CF-1C"
  ++ "F,1D1-1D1,1D3-1D3,1D5-1D5,1D7-1D7,1D9-1D9,1DB-1DB,1DE-1DE,1E0-1E0,1E2-1E2,1E4-1E4,1E6-1E"
  ++ "6,1E8-1E8,1EA-1EA,1EC-1EC,1EE-1EE,1F1-1F1,1F4-1F4,1F6-1F8,1FA-1FA,1FC-1FC,1FE-1FE,200-20"
  ++ "0,202-202,204-204,206-206,208-208,20A-20A,20C-20C,20E-20E,210-210,212-212,214-214,216-21"
  ++ "6,218-218,21A-21A,21C-21C,21E-21E,220-220,222-222,224-224,226-226,228-228,22A-22A,22C-22"
  ++ "C,22E-22E,230-230,232-232,23A-23B,23D-23E,241-241,243-246,248-248,24A-24A,24C-24C,24E-24"
  ++ "E,370-370,372-372,376-376,37F-37F,386-386,388-38A,38C-38C,38E-38F,391-3A1,3A3-3AB,3CF-3C"
  ++ "F,3D2-3D4,3D8-3D8,3DA-3DA,3DC-3DC,3DE-3DE,3E0-3E0,3E2-3E2,3E4-3E4,3E6-3E6,3E8-3E8,3EA-3E"
  ++ "A,3EC-3EC,3EE-3EE,3F4-3F4,3F7-3F7,3F9-3FA,3FD-42F,460-460,462-462,464-464,466-466,468-46"
  ++ "8,46A-46A,46C-46C,46E-46E,470-470,472-472,474-474,476-476,478-478,47A-47A,47C-47C,47E-47"
  ++ "E,480-480,48A-48A,48C-48C,48E-48E,490-490,492-492,494-494,496-496,498-498,49A-49A,49C-49"
  ++ "C,49E-49E,4A0-4A0,4A2-4A2,4A4-4A4,4A6-4A6,4A8-4A8,4AA-4AA,4AC-4AC,4AE-4AE,4B0-4B0,4B2-4B"
  ++ "2,4B4-4B4,4B6-4B6,4B8-4B8,4BA-4BA,4BC-4BC,4BE-4BE,4C0-4C1,4C3-4C3,4C5-4C5,4C7-4C7,4C9-4C"
  ++ "9,4CB-4CB,4CD-4CD,4D0-4D0,4D2-4D2,4D4-4D4,4D6-4D6,4D8-4D8,4DA-4DA,4DC-4DC,4DE-4DE,4E0-4E"
  ++ "0,4E2-4E2,4E4-4E4,4E6-4E6,4E8-4E8,4EA-4EA,4EC-4EC,4EE-4EE,4F0-4F0,4F2-4F2,4F4-4F4,4F6-4F"
  ++ "6,4F8-4F8,4FA-4FA,4FC-4FC,4FE-4FE,500-500,502-502,504-504,506-506,508-508,50A-50A,50C-50"
  ++ "C,50E-50E,510-510,512-512,514-514,516-516,518-518,51A-51A,51C-51C,51E-51E,520-520,522-52"
  ++ "2,524-524,526-526,528-528,52A-52A,52C-52C,52E-52E,531-556,10A0-10C5,10C7-10C7,10CD-10CD,"
  ++ "13A0-13F5,1C89-1C89,1C90-1CBA,1CBD-1CBF,1E00-1E00,1E02-1E02,1E04-1E04,1E06-1E06,1E08-1E0"
  ++ "8,1E0A-1E0A,1E0C-1E0C,1E0E-1E0E,1E10-1E10,1E12-1E12,1E14-1E14,1E16-1E16,1E18-1E18,1E1A-1"
  ++ "E1A,1E1C-1E1C,1E1E-1E1E,1E20-1E20,1E22-1E22,1E24-1E24,1E26-1E26,1E28-1E28,1E2A-1E2A,1E2C"
  ++ "-1E2C,1E2E-1E2E,1E30-1E30,1E32-1E32,1E34-1E34,1E36-1E36,1E38-1E38,1E3A-1E3A,1E3C-1E3C,1E"
  ++ "3E-1E3E,1E40-1E40,1E42-1E42,1E44-1E44,1E46-1E46,1E48-1E48,1E4A-1E4A,1E4C-1E4C,1E4E-1E4E,"
  ++ "1E50-1E50,1E52-1E52,1E54-1E54,1E56-1E56,1E58-1E58,1E5A-1E5A,1E5C-1E5C,1E5E-1E5E,1E60-1E6"
  ++ "0,1E62-1E62,1E64-1E64,1E66-1E66,1E68-1E68,1E6A-1E6A,1E6C-1E6C,1E6E-1E6E,1E70-1E70,1E72-1"
  ++ "E72,1E74-1E74,1E76-1E76,1E78-1E78,1E7A-1E7A,1E7C-1E7C,1E7E-1E7E,1E80-1E80,1E82-1E82,1E84"
  ++ "-1E84,1E86-1E86,1E88-1E88,1E8A-1E8A,1E8C-1E8C,1E8E-1E8E,1E90-1E90,1E92-1E92,1E94-1E94,1E"
  ++ "9E-1E9E,1EA0-1EA0,1EA2-1EA2,1EA4-1EA4,1EA6-1EA6,1EA8-1EA8,1EAA-1EAA,1EAC-1EAC,1EAE-1EAE,"
  ++ "1EB0-1EB0,1EB2-1EB2,1EB4-1EB4,1EB6-1EB6,1EB8-1EB8,1EBA-1EBA,1EBC-1EBC,1EBE-1EBE,1EC0-1EC"
  ++ "0,1EC2-1EC2,1EC4-1EC4,1EC6-1EC6,1EC8-1EC8,1ECA-1ECA,1ECC-1ECC,1ECE-1ECE,1ED0-1ED0,1ED2-1"
  ++ "ED2,1ED4-1ED4,1ED6-1ED6,1ED8-1ED8,1EDA-1EDA,1EDC-1EDC,1EDE-1EDE,1EE0-1EE0,1EE2-1EE2,1EE4"
  ++ "-1EE4,1EE6-1EE6,1EE8-1EE8,1EEA-1EEA,1EEC-1EEC,1EEE-1EEE,1EF0-1EF0,1EF2-1EF2,1EF4-1EF4,1E"
  ++ "F6-1EF6,1EF8-1EF8,1EFA-1EFA,1EFC-1EFC,1EFE-1EFE,1F08-1F0F,1F18-1F1D,1F28-1F2F,1F38-1F3F,"
  ++ "1F48-1F4D,1F59-1F59,1F5B-1F5B,1F5D-1F5D,1F5F-1F5F,1F68-1F6F,1FB8-1FBB,1FC8-1FCB,1FD8-1FD"
  ++ "B,1FE8-1FEC,1FF8-1FFB,2102-2102,2107-2107,210B-210D,2110-2112,2115-2115,2119-211D,2124-2"
  ++ "124,2126-2126,2128-2128,212A-212D,2130-2133,213E-213F,2145-2145,2160-216F,2183-2183,24B6"
  ++ "-24CF,2C00-2C2F,2C60-2C60,2C62-2C64,2C67-2C67,2C69-2C69,2C6B-2C6B,2C6D-2C70,2C72-2C72,2C"
  ++ "75-2C75,2C7E-2C80,2C82-2C82,2C84-2C84,2C86-2C86,2C88-2C88,2C8A-2C8A,2C8C-2C8C,2C8E-2C8E,"
  ++ "2C90-2C90,2C92-2C92,2C94-2C94,2C96-2C96,2C98-2C98,2C9A-2C9A,2C9C-2C9C,2C9E-2C9E,2CA0-2CA"
  ++ "0,2CA2-2CA2,2CA4-2CA4,2CA6-2CA6,2CA8-2CA8,2CAA-2CAA,2CAC-2CAC,2CAE-2CAE,2CB0-2CB0,2CB2-2"
  ++ "CB2,2CB4-2CB4,2CB6-2CB6,2CB8-2CB8,2CBA-2CBA,2CBC-2CBC,2CBE-2CBE,2CC0-2CC0,2CC2-2CC2,2CC4"
  ++ "-2CC4,2CC6-2CC6,2CC8-2CC8,2CCA-2CCA,2CCC-2CCC,2CCE-2CCE,2CD0-2CD0,2CD2-2CD2,2CD4-2CD4,2C"
  ++ "D6-2CD6,2CD8-2CD8,2CDA-2CDA,2CDC-2CDC,2CDE-2CDE,2CE0-2CE0,2CE2-2CE2,2CEB-2CEB,2CED-2CED,"
  ++ "2CF2-2CF2,A640-A640,A642-A642,A644-A644,A646-A646,A648-A648,A64A-A64A,A64C-A64C,A64E-A64"
  ++ "E,A650-A650,A652-A652,A654-A654,A656-A656,A658-A658,A65A-A65A,A65C-A65C,A65E-A65E,A660-A"
  ++ "660,A662-A662,A664-A664,A666-A666,A668-A668,A66A-A66A,A66C-A66C,A680-A680,A682-A682,A684"
  ++ "-A684,A686-A686,A688-A688,A68A-A68A,A68C-A68C,A68E-A68E,A690-A690,A692-A692,A694-A694,A6"
  ++ "96-A696,A698-A698,A69A-A69A,A722-A722,A724-A724,A726-A726,A728-A728,A72A-A72A,A72C-A72C,"
  ++ "A72E-A72E,A732-A732,A734-A734,A736-A736,A738-A738,A73A-A73A,A73C-A73C,A73E-A73E,A740-A74"
  ++ "0,A742-A742,A744-A744,A746-A746,A748-A748,A74A-A74A,A74C-A74C,A74E-A74E,A750-A750,A752-A"
  ++ "752,A754-A754,A756-A756,A758-A758,A75A-A75A,A75C-A75C,A75E-A75E,A760-A760,A762-A762,A764"
  ++ "-A764,A766-A766,A768-A768,A76A-A76A,A76C-A76C,A76E-A76E,A779-A779,A77B-A77B,A77D-A77E,A7"
  ++ "80-A780,A782-A782,A784-A784,A786-A786,A78B-A78B,A78D-A78D,A790-A790,A792-A792,A796-A796,"
  ++ "A798-A798,A79A-A79A,A79C-A79C,A79E-A79E,A7A0-A7A0,A7A2-A7A2,A7A4-A7A4,A7A6-A7A6,A7A8-A7A"
  ++ "8,A7AA-A7AE,A7B0-A7B4,A7B6-A7B6,A7B8-A7B8,A7BA-A7BA,A7BC-A7BC,A7BE-A7BE,A7C0-A7C0,A7C2-A"
  ++ "7C2,A7C4-A7C7,A7C9-A7C9,A7CB-A7CC,A7CE-A7CE,A7D0-A7D0,A7D2-A7D2,A7D4-A7D4,A7D6-A7D6,A7D8"
  ++ "-A7D8,A7DA-A7DA,A7DC-A7DC,A7F5-A7F5,FF21-FF3A,10400-10427,104B0-104D3,10570-1057A,1057C-"
  ++ "1058A,1058C-10592,10594-10595,10C80-10CB2,10D50-10D65,118A0-118BF,16E40-16E5F,16EA0-16EB"
  ++ "A,1D400-1D419,1D434-1D44D,1D468-1D481,1D49C-1D49C,1D49E-1D49F,1D4A2-1D4A2,1D4A5-1D4A6,1D"
  ++ "4A9-1D4AC,1D4AE-1D4B5,1D4D0-1D4E9,1D504-1D505,1D507-1D50A,1D50D-1D514,1D516-1D51C,1D538-"
  ++ "1D539,1D53B-1D53E,1D540-1D544,1D546-1D546,1D54A-1D550,1D56C-1D585,1D5A0-1D5B9,1D5D4-1D5E"
  ++ "D,1D608-1D621,1D63C-1D655,1D670-1D689,1D6A8-1D6C0,1D6E2-1D6FA,1D71C-1D734,1D756-1D76E,1D"
  ++ "790-1D7A8,1D7CA-1D7CA,1E900-1E921,1F130-1F149,1F150-1F169,1F170-1F189"

/-- The `Lowercase` code points. -/
def lowercaseTable : Ranges := Ranges.ofText <|
  "61-7A,AA-AA,B5-B5,BA-BA,DF-F6,F8-FF,101-101,103-103,105-105,107-107,109-109,10B-10B,10D-"
  ++ "10D,10F-10F,111-111,113-113,115-115,117-117,119-119,11B-11B,11D-11D,11F-11F,121-121,123-"
  ++ "123,125-125,127-127,129-129,12B-12B,12D-12D,12F-12F,131-131,133-133,135-135,137-138,13A-"
  ++ "13A,13C-13C,13E-13E,140-140,142-142,144-144,146-146,148-149,14B-14B,14D-14D,14F-14F,151-"
  ++ "151,153-153,155-155,157-157,159-159,15B-15B,15D-15D,15F-15F,161-161,163-163,165-165,167-"
  ++ "167,169-169,16B-16B,16D-16D,16F-16F,171-171,173-173,175-175,177-177,17A-17A,17C-17C,17E-"
  ++ "180,183-183,185-185,188-188,18C-18D,192-192,195-195,199-19B,19E-19E,1A1-1A1,1A3-1A3,1A5-"
  ++ "1A5,1A8-1A8,1AA-1AB,1AD-1AD,1B0-1B0,1B4-1B4,1B6-1B6,1B9-1BA,1BD-1BF,1C6-1C6,1C9-1C9,1CC-"
  ++ "1CC,1CE-1CE,1D0-1D0,1D2-1D2,1D4-1D4,1D6-1D6,1D8-1D8,1DA-1DA,1DC-1DD,1DF-1DF,1E1-1E1,1E3-"
  ++ "1E3,1E5-1E5,1E7-1E7,1E9-1E9,1EB-1EB,1ED-1ED,1EF-1F0,1F3-1F3,1F5-1F5,1F9-1F9,1FB-1FB,1FD-"
  ++ "1FD,1FF-1FF,201-201,203-203,205-205,207-207,209-209,20B-20B,20D-20D,20F-20F,211-211,213-"
  ++ "213,215-215,217-217,219-219,21B-21B,21D-21D,21F-21F,221-221,223-223,225-225,227-227,229-"
  ++ "229,22B-22B,22D-22D,22F-22F,231-231,233-239,23C-23C,23F-240,242-242,247-247,249-249,24B-"
  ++ "24B,24D-24D,24F-293,295-2B8,2C0-2C1,2E0-2E4,345-345,371-371,373-373,377-377,37A-37D,390-"
  ++ "390,3AC-3CE,3D0-3D1,3D5-3D7,3D9-3D9,3DB-3DB,3DD-3DD,3DF-3DF,3E1-3E1,3E3-3E3,3E5-3E5,3E7-"
  ++ "3E7,3E9-3E9,3EB-3EB,3ED-3ED,3EF-3F3,3F5-3F5,3F8-3F8,3FB-3FC,430-45F,461-461,463-463,465-"
  ++ "465,467-467,469-469,46B-46B,46D-46D,46F-46F,471-471,473-473,475-475,477-477,479-479,47B-"
  ++ "47B,47D-47D,47F-47F,481-481,48B-48B,48D-48D,48F-48F,491-491,493-493,495-495,497-497,499-"
  ++ "499,49B-49B,49D-49D,49F-49F,4A1-4A1,4A3-4A3,4A5-4A5,4A7-4A7,4A9-4A9,4AB-4AB,4AD-4AD,4AF-"
  ++ "4AF,4B1-4B1,4B3-4B3,4B5-4B5,4B7-4B7,4B9-4B9,4BB-4BB,4BD-4BD,4BF-4BF,4C2-4C2,4C4-4C4,4C6-"
  ++ "4C6,4C8-4C8,4CA-4CA,4CC-4CC,4CE-4CF,4D1-4D1,4D3-4D3,4D5-4D5,4D7-4D7,4D9-4D9,4DB-4DB,4DD-"
  ++ "4DD,4DF-4DF,4E1-4E1,4E3-4E3,4E5-4E5,4E7-4E7,4E9-4E9,4EB-4EB,4ED-4ED,4EF-4EF,4F1-4F1,4F3-"
  ++ "4F3,4F5-4F5,4F7-4F7,4F9-4F9,4FB-4FB,4FD-4FD,4FF-4FF,501-501,503-503,505-505,507-507,509-"
  ++ "509,50B-50B,50D-50D,50F-50F,511-511,513-513,515-515,517-517,519-519,51B-51B,51D-51D,51F-"
  ++ "51F,521-521,523-523,525-525,527-527,529-529,52B-52B,52D-52D,52F-52F,560-588,10D0-10FA,10"
  ++ "FC-10FF,13F8-13FD,1C80-1C88,1C8A-1C8A,1D00-1DBF,1E01-1E01,1E03-1E03,1E05-1E05,1E07-1E07,"
  ++ "1E09-1E09,1E0B-1E0B,1E0D-1E0D,1E0F-1E0F,1E11-1E11,1E13-1E13,1E15-1E15,1E17-1E17,1E19-1E1"
  ++ "9,1E1B-1E1B,1E1D-1E1D,1E1F-1E1F,1E21-1E21,1E23-1E23,1E25-1E25,1E27-1E27,1E29-1E29,1E2B-1"
  ++ "E2B,1E2D-1E2D,1E2F-1E2F,1E31-1E31,1E33-1E33,1E35-1E35,1E37-1E37,1E39-1E39,1E3B-1E3B,1E3D"
  ++ "-1E3D,1E3F-1E3F,1E41-1E41,1E43-1E43,1E45-1E45,1E47-1E47,1E49-1E49,1E4B-1E4B,1E4D-1E4D,1E"
  ++ "4F-1E4F,1E51-1E51,1E53-1E53,1E55-1E55,1E57-1E57,1E59-1E59,1E5B-1E5B,1E5D-1E5D,1E5F-1E5F,"
  ++ "1E61-1E61,1E63-1E63,1E65-1E65,1E67-1E67,1E69-1E69,1E6B-1E6B,1E6D-1E6D,1E6F-1E6F,1E71-1E7"
  ++ "1,1E73-1E73,1E75-1E75,1E77-1E77,1E79-1E79,1E7B-1E7B,1E7D-1E7D,1E7F-1E7F,1E81-1E81,1E83-1"
  ++ "E83,1E85-1E85,1E87-1E87,1E89-1E89,1E8B-1E8B,1E8D-1E8D,1E8F-1E8F,1E91-1E91,1E93-1E93,1E95"
  ++ "-1E9D,1E9F-1E9F,1EA1-1EA1,1EA3-1EA3,1EA5-1EA5,1EA7-1EA7,1EA9-1EA9,1EAB-1EAB,1EAD-1EAD,1E"
  ++ "AF-1EAF,1EB1-1EB1,1EB3-1EB3,1EB5-1EB5,1EB7-1EB7,1EB9-1EB9,1EBB-1EBB,1EBD-1EBD,1EBF-1EBF,"
  ++ "1EC1-1EC1,1EC3-1EC3,1EC5-1EC5,1EC7-1EC7,1EC9-1EC9,1ECB-1ECB,1ECD-1ECD,1ECF-1ECF,1ED1-1ED"
  ++ "1,1ED3-1ED3,1ED5-1ED5,1ED7-1ED7,1ED9-1ED9,1EDB-1EDB,1EDD-1EDD,1EDF-1EDF,1EE1-1EE1,1EE3-1"
  ++ "EE3,1EE5-1EE5,1EE7-1EE7,1EE9-1EE9,1EEB-1EEB,1EED-1EED,1EEF-1EEF,1EF1-1EF1,1EF3-1EF3,1EF5"
  ++ "-1EF5,1EF7-1EF7,1EF9-1EF9,1EFB-1EFB,1EFD-1EFD,1EFF-1F07,1F10-1F15,1F20-1F27,1F30-1F37,1F"
  ++ "40-1F45,1F50-1F57,1F60-1F67,1F70-1F7D,1F80-1F87,1F90-1F97,1FA0-1FA7,1FB0-1FB4,1FB6-1FB7,"
  ++ "1FBE-1FBE,1FC2-1FC4,1FC6-1FC7,1FD0-1FD3,1FD6-1FD7,1FE0-1FE7,1FF2-1FF4,1FF6-1FF7,2071-207"
  ++ "1,207F-207F,2090-209C,210A-210A,210E-210F,2113-2113,212F-212F,2134-2134,2139-2139,213C-2"
  ++ "13D,2146-2149,214E-214E,2170-217F,2184-2184,24D0-24E9,2C30-2C5F,2C61-2C61,2C65-2C66,2C68"
  ++ "-2C68,2C6A-2C6A,2C6C-2C6C,2C71-2C71,2C73-2C74,2C76-2C7D,2C81-2C81,2C83-2C83,2C85-2C85,2C"
  ++ "87-2C87,2C89-2C89,2C8B-2C8B,2C8D-2C8D,2C8F-2C8F,2C91-2C91,2C93-2C93,2C95-2C95,2C97-2C97,"
  ++ "2C99-2C99,2C9B-2C9B,2C9D-2C9D,2C9F-2C9F,2CA1-2CA1,2CA3-2CA3,2CA5-2CA5,2CA7-2CA7,2CA9-2CA"
  ++ "9,2CAB-2CAB,2CAD-2CAD,2CAF-2CAF,2CB1-2CB1,2CB3-2CB3,2CB5-2CB5,2CB7-2CB7,2CB9-2CB9,2CBB-2"
  ++ "CBB,2CBD-2CBD,2CBF-2CBF,2CC1-2CC1,2CC3-2CC3,2CC5-2CC5,2CC7-2CC7,2CC9-2CC9,2CCB-2CCB,2CCD"
  ++ "-2CCD,2CCF-2CCF,2CD1-2CD1,2CD3-2CD3,2CD5-2CD5,2CD7-2CD7,2CD9-2CD9,2CDB-2CDB,2CDD-2CDD,2C"
  ++ "DF-2CDF,2CE1-2CE1,2CE3-2CE4,2CEC-2CEC,2CEE-2CEE,2CF3-2CF3,2D00-2D25,2D27-2D27,2D2D-2D2D,"
  ++ "A641-A641,A643-A643,A645-A645,A647-A647,A649-A649,A64B-A64B,A64D-A64D,A64F-A64F,A651-A65"
  ++ "1,A653-A653,A655-A655,A657-A657,A659-A659,A65B-A65B,A65D-A65D,A65F-A65F,A661-A661,A663-A"
  ++ "663,A665-A665,A667-A667,A669-A669,A66B-A66B,A66D-A66D,A681-A681,A683-A683,A685-A685,A687"
  ++ "-A687,A689-A689,A68B-A68B,A68D-A68D,A68F-A68F,A691-A691,A693-A693,A695-A695,A697-A697,A6"
  ++ "99-A699,A69B-A69D,A723-A723,A725-A725,A727-A727,A729-A729,A72B-A72B,A72D-A72D,A72F-A731,"
  ++ "A733-A733,A735-A735,A737-A737,A739-A739,A73B-A73B,A73D-A73D,A73F-A73F,A741-A741,A743-A74"
  ++ "3,A745-A745,A747-A747,A749-A749,A74B-A74B,A74D-A74D,A74F-A74F,A751-A751,A753-A753,A755-A"
  ++ "755,A757-A757,A759-A759,A75B-A75B,A75D-A75D,A75F-A75F,A761-A761,A763-A763,A765-A765,A767"
  ++ "-A767,A769-A769,A76B-A76B,A76D-A76D,A76F-A778,A77A-A77A,A77C-A77C,A77F-A77F,A781-A781,A7"
  ++ "83-A783,A785-A785,A787-A787,A78C-A78C,A78E-A78E,A791-A791,A793-A795,A797-A797,A799-A799,"
  ++ "A79B-A79B,A79D-A79D,A79F-A79F,A7A1-A7A1,A7A3-A7A3,A7A5-A7A5,A7A7-A7A7,A7A9-A7A9,A7AF-A7A"
  ++ "F,A7B5-A7B5,A7B7-A7B7,A7B9-A7B9,A7BB-A7BB,A7BD-A7BD,A7BF-A7BF,A7C1-A7C1,A7C3-A7C3,A7C8-A"
  ++ "7C8,A7CA-A7CA,A7CD-A7CD,A7CF-A7CF,A7D1-A7D1,A7D3-A7D3,A7D5-A7D5,A7D7-A7D7,A7D9-A7D9,A7DB"
  ++ "-A7DB,A7F1-A7F4,A7F6-A7F6,A7F8-A7FA,AB30-AB5A,AB5C-AB69,AB70-ABBF,FB00-FB06,FB13-FB17,FF"
  ++ "41-FF5A,10428-1044F,104D8-104FB,10597-105A1,105A3-105B1,105B3-105B9,105BB-105BC,10780-10"
  ++ "780,10783-10785,10787-107B0,107B2-107BA,10CC0-10CF2,10D70-10D85,118C0-118DF,16E60-16E7F,"
  ++ "16EBB-16ED5,1D41A-1D433,1D44E-1D454,1D456-1D467,1D482-1D49B,1D4B6-1D4B9,1D4BB-1D4BB,1D4B"
  ++ "D-1D4C3,1D4C5-1D4CF,1D4EA-1D503,1D51E-1D537,1D552-1D56B,1D586-1D59F,1D5BA-1D5D3,1D5EE-1D"
  ++ "607,1D622-1D63B,1D656-1D66F,1D68A-1D6A5,1D6C2-1D6DA,1D6DC-1D6E1,1D6FC-1D714,1D716-1D71B,"
  ++ "1D736-1D74E,1D750-1D755,1D770-1D788,1D78A-1D78F,1D7AA-1D7C2,1D7C4-1D7C9,1D7CB-1D7CB,1DF0"
  ++ "0-1DF09,1DF0B-1DF1E,1DF25-1DF2A,1E030-1E06D,1E922-1E943"

/-- Whether a character is upper-case. -/
def isUppercase (c : Char) : Bool := uppercaseTable.contains c.toNat

/-- Whether a character is lower-case. -/
def isLowercase (c : Char) : Bool := lowercaseTable.contains c.toNat

/-- A run of a case mapping: code points `lo … hi` in steps of `stride` move by `delta`. -/
structure CaseRun where
  lo : Nat
  hi : Nat
  stride : Nat
  delta : Int
  deriving Inhabited

/-- Reads the runs of a mapping table. -/
def caseRunsOfText (s : String) : Array CaseRun :=
  ((s.splitOn ",").filter (· ≠ "")).toArray.map fun part =>
    match part.splitOn "-" with
    | [lo, hi, stride, d] =>
      let mag : Int := Ranges.hexValue (String.ofList (d.toList.drop 1))
      ⟨Ranges.hexValue lo, Ranges.hexValue hi, Ranges.hexValue stride,
        if d.startsWith "m" then -mag else mag⟩
    | _ => ⟨0, 0, 1, 0⟩

/-- Reads the mappings to several characters. -/
def caseSpecialsOfText (s : String) : List (Nat × List Char) :=
  ((s.splitOn ",").filter (· ≠ "")).map fun part =>
    match part.splitOn ":" with
    | [src, dst] => (Ranges.hexValue src, (dst.splitOn " ").map fun h => Char.ofNat (Ranges.hexValue h))
    | _ => (0, [])

/-- Lower-case runs. -/
def lowerRuns : Array CaseRun := caseRunsOfText <|
  "41-5A-1-p20,C0-D6-1-p20,D8-DE-1-p20,100-12E-2-p1,132-136-2-p1,139-147-2-p1,14A-176-2-p1,"
  ++ "178-178-1-m79,179-17D-2-p1,181-181-1-pD2,182-184-2-p1,186-186-1-pCE,187-187-1-p1,189-18A"
  ++ "-1-pCD,18B-18B-1-p1,18E-18E-1-p4F,18F-18F-1-pCA,190-190-1-pCB,191-191-1-p1,193-193-1-pCD"
  ++ ",194-194-1-pCF,196-196-1-pD3,197-197-1-pD1,198-198-1-p1,19C-19C-1-pD3,19D-19D-1-pD5,19F-"
  ++ "19F-1-pD6,1A0-1A4-2-p1,1A6-1A6-1-pDA,1A7-1A7-1-p1,1A9-1A9-1-pDA,1AC-1AC-1-p1,1AE-1AE-1-p"
  ++ "DA,1AF-1AF-1-p1,1B1-1B2-1-pD9,1B3-1B5-2-p1,1B7-1B7-1-pDB,1B8-1B8-1-p1,1BC-1BC-1-p1,1C4-1"
  ++ "C4-1-p2,1C5-1C5-1-p1,1C7-1C7-1-p2,1C8-1C8-1-p1,1CA-1CA-1-p2,1CB-1DB-2-p1,1DE-1EE-2-p1,1F"
  ++ "1-1F1-1-p2,1F2-1F4-2-p1,1F6-1F6-1-m61,1F7-1F7-1-m38,1F8-21E-2-p1,220-220-1-m82,222-232-2"
  ++ "-p1,23A-23A-1-p2A2B,23B-23B-1-p1,23D-23D-1-mA3,23E-23E-1-p2A28,241-241-1-p1,243-243-1-mC"
  ++ "3,244-244-1-p45,245-245-1-p47,246-24E-2-p1,370-372-2-p1,376-376-1-p1,37F-37F-1-p74,386-3"
  ++ "86-1-p26,388-38A-1-p25,38C-38C-1-p40,38E-38F-1-p3F,391-3A1-1-p20,3A3-3AB-1-p20,3CF-3CF-1"
  ++ "-p8,3D8-3EE-2-p1,3F4-3F4-1-m3C,3F7-3F7-1-p1,3F9-3F9-1-m7,3FA-3FA-1-p1,3FD-3FF-1-m82,400-"
  ++ "40F-1-p50,410-42F-1-p20,460-480-2-p1,48A-4BE-2-p1,4C0-4C0-1-pF,4C1-4CD-2-p1,4D0-52E-2-p1"
  ++ ",531-556-1-p30,10A0-10C5-1-p1C60,10C7-10C7-1-p1C60,10CD-10CD-1-p1C60,13A0-13EF-1-p97D0,1"
  ++ "3F0-13F5-1-p8,1C89-1C89-1-p1,1C90-1CBA-1-mBC0,1CBD-1CBF-1-mBC0,1E00-1E94-2-p1,1E9E-1E9E-"
  ++ "1-m1DBF,1EA0-1EFE-2-p1,1F08-1F0F-1-m8,1F18-1F1D-1-m8,1F28-1F2F-1-m8,1F38-1F3F-1-m8,1F48-"
  ++ "1F4D-1-m8,1F59-1F5F-2-m8,1F68-1F6F-1-m8,1F88-1F8F-1-m8,1F98-1F9F-1-m8,1FA8-1FAF-1-m8,1FB"
  ++ "8-1FB9-1-m8,1FBA-1FBB-1-m4A,1FBC-1FBC-1-m9,1FC8-1FCB-1-m56,1FCC-1FCC-1-m9,1FD8-1FD9-1-m8"
  ++ ",1FDA-1FDB-1-m64,1FE8-1FE9-1-m8,1FEA-1FEB-1-m70,1FEC-1FEC-1-m7,1FF8-1FF9-1-m80,1FFA-1FFB"
  ++ "-1-m7E,1FFC-1FFC-1-m9,2126-2126-1-m1D5D,212A-212A-1-m20BF,212B-212B-1-m2046,2132-2132-1-"
  ++ "p1C,2160-216F-1-p10,2183-2183-1-p1,24B6-24CF-1-p1A,2C00-2C2F-1-p30,2C60-2C60-1-p1,2C62-2"
  ++ "C62-1-m29F7,2C63-2C63-1-mEE6,2C64-2C64-1-m29E7,2C67-2C6B-2-p1,2C6D-2C6D-1-m2A1C,2C6E-2C6"
  ++ "E-1-m29FD,2C6F-2C6F-1-m2A1F,2C70-2C70-1-m2A1E,2C72-2C72-1-p1,2C75-2C75-1-p1,2C7E-2C7F-1-"
  ++ "m2A3F,2C80-2CE2-2-p1,2CEB-2CED-2-p1,2CF2-2CF2-1-p1,A640-A66C-2-p1,A680-A69A-2-p1,A722-A7"
  ++ "2E-2-p1,A732-A76E-2-p1,A779-A77B-2-p1,A77D-A77D-1-m8A04,A77E-A786-2-p1,A78B-A78B-1-p1,A7"
  ++ "8D-A78D-1-mA528,A790-A792-2-p1,A796-A7A8-2-p1,A7AA-A7AA-1-mA544,A7AB-A7AB-1-mA54F,A7AC-A"
  ++ "7AC-1-mA54B,A7AD-A7AD-1-mA541,A7AE-A7AE-1-mA544,A7B0-A7B0-1-mA512,A7B1-A7B1-1-mA52A,A7B2"
  ++ "-A7B2-1-mA515,A7B3-A7B3-1-p3A0,A7B4-A7C2-2-p1,A7C4-A7C4-1-m30,A7C5-A7C5-1-mA543,A7C6-A7C"
  ++ "6-1-m8A38,A7C7-A7C9-2-p1,A7CB-A7CB-1-mA567,A7CC-A7DA-2-p1,A7DC-A7DC-1-mA641,A7F5-A7F5-1-"
  ++ "p1,FF21-FF3A-1-p20,10400-10427-1-p28,104B0-104D3-1-p28,10570-1057A-1-p27,1057C-1058A-1-p"
  ++ "27,1058C-10592-1-p27,10594-10595-1-p27,10C80-10CB2-1-p40,10D50-10D65-1-p20,118A0-118BF-1"
  ++ "-p20,16E40-16E5F-1-p20,16EA0-16EBA-1-p1B,1E900-1E921-1-p22"

/-- Lower-case mappings to several characters. -/
def lowerSpecials : List (Nat × List Char) := caseSpecialsOfText <|
  "130:69 307"

/-- Upper-case runs. -/
def upperRuns : Array CaseRun := caseRunsOfText <|
  "61-7A-1-m20,B5-B5-1-p2E7,E0-F6-1-m20,F8-FE-1-m20,FF-FF-1-p79,101-12F-2-m1,131-131-1-mE8,"
  ++ "133-137-2-m1,13A-148-2-m1,14B-177-2-m1,17A-17E-2-m1,17F-17F-1-m12C,180-180-1-pC3,183-185"
  ++ "-2-m1,188-188-1-m1,18C-18C-1-m1,192-192-1-m1,195-195-1-p61,199-199-1-m1,19A-19A-1-pA3,19"
  ++ "B-19B-1-pA641,19E-19E-1-p82,1A1-1A5-2-m1,1A8-1A8-1-m1,1AD-1AD-1-m1,1B0-1B0-1-m1,1B4-1B6-"
  ++ "2-m1,1B9-1B9-1-m1,1BD-1BD-1-m1,1BF-1BF-1-p38,1C5-1C5-1-m1,1C6-1C6-1-m2,1C8-1C8-1-m1,1C9-"
  ++ "1C9-1-m2,1CB-1CB-1-m1,1CC-1CC-1-m2,1CE-1DC-2-m1,1DD-1DD-1-m4F,1DF-1EF-2-m1,1F2-1F2-1-m1,"
  ++ "1F3-1F3-1-m2,1F5-1F5-1-m1,1F9-21F-2-m1,223-233-2-m1,23C-23C-1-m1,23F-240-1-p2A3F,242-242"
  ++ "-1-m1,247-24F-2-m1,250-250-1-p2A1F,251-251-1-p2A1C,252-252-1-p2A1E,253-253-1-mD2,254-254"
  ++ "-1-mCE,256-257-1-mCD,259-259-1-mCA,25B-25B-1-mCB,25C-25C-1-pA54F,260-260-1-mCD,261-261-1"
  ++ "-pA54B,263-263-1-mCF,264-264-1-pA567,265-265-1-pA528,266-266-1-pA544,268-268-1-mD1,269-2"
  ++ "69-1-mD3,26A-26A-1-pA544,26B-26B-1-p29F7,26C-26C-1-pA541,26F-26F-1-mD3,271-271-1-p29FD,2"
  ++ "72-272-1-mD5,275-275-1-mD6,27D-27D-1-p29E7,280-280-1-mDA,282-282-1-pA543,283-283-1-mDA,2"
  ++ "87-287-1-pA52A,288-288-1-mDA,289-289-1-m45,28A-28B-1-mD9,28C-28C-1-m47,292-292-1-mDB,29D"
  ++ "-29D-1-pA515,29E-29E-1-pA512,345-345-1-p54,371-373-2-m1,377-377-1-m1,37B-37D-1-p82,3AC-3"
  ++ "AC-1-m26,3AD-3AF-1-m25,3B1-3C1-1-m20,3C2-3C2-1-m1F,3C3-3CB-1-m20,3CC-3CC-1-m40,3CD-3CE-1"
  ++ "-m3F,3D0-3D0-1-m3E,3D1-3D1-1-m39,3D5-3D5-1-m2F,3D6-3D6-1-m36,3D7-3D7-1-m8,3D9-3EF-2-m1,3"
  ++ "F0-3F0-1-m56,3F1-3F1-1-m50,3F2-3F2-1-p7,3F3-3F3-1-m74,3F5-3F5-1-m60,3F8-3F8-1-m1,3FB-3FB"
  ++ "-1-m1,430-44F-1-m20,450-45F-1-m50,461-481-2-m1,48B-4BF-2-m1,4C2-4CE-2-m1,4CF-4CF-1-mF,4D"
  ++ "1-52F-2-m1,561-586-1-m30,10D0-10FA-1-pBC0,10FD-10FF-1-pBC0,13F8-13FD-1-m8,1C80-1C80-1-m1"
  ++ "86E,1C81-1C81-1-m186D,1C82-1C82-1-m1864,1C83-1C84-1-m1862,1C85-1C85-1-m1863,1C86-1C86-1-"
  ++ "m185C,1C87-1C87-1-m1825,1C88-1C88-1-p89C2,1C8A-1C8A-1-m1,1D79-1D79-1-p8A04,1D7D-1D7D-1-p"
  ++ "EE6,1D8E-1D8E-1-p8A38,1E01-1E95-2-m1,1E9B-1E9B-1-m3B,1EA1-1EFF-2-m1,1F00-1F07-1-p8,1F10-"
  ++ "1F15-1-p8,1F20-1F27-1-p8,1F30-1F37-1-p8,1F40-1F45-1-p8,1F51-1F57-2-p8,1F60-1F67-1-p8,1F7"
  ++ "0-1F71-1-p4A,1F72-1F75-1-p56,1F76-1F77-1-p64,1F78-1F79-1-p80,1F7A-1F7B-1-p70,1F7C-1F7D-1"
  ++ "-p7E,1FB0-1FB1-1-p8,1FBE-1FBE-1-m1C25,1FD0-1FD1-1-p8,1FE0-1FE1-1-p8,1FE5-1FE5-1-p7,214E-"
  ++ "214E-1-m1C,2170-217F-1-m10,2184-2184-1-m1,24D0-24E9-1-m1A,2C30-2C5F-1-m30,2C61-2C61-1-m1"
  ++ ",2C65-2C65-1-m2A2B,2C66-2C66-1-m2A28,2C68-2C6C-2-m1,2C73-2C73-1-m1,2C76-2C76-1-m1,2C81-2"
  ++ "CE3-2-m1,2CEC-2CEE-2-m1,2CF3-2CF3-1-m1,2D00-2D25-1-m1C60,2D27-2D27-1-m1C60,2D2D-2D2D-1-m"
  ++ "1C60,A641-A66D-2-m1,A681-A69B-2-m1,A723-A72F-2-m1,A733-A76F-2-m1,A77A-A77C-2-m1,A77F-A78"
  ++ "7-2-m1,A78C-A78C-1-m1,A791-A793-2-m1,A794-A794-1-p30,A797-A7A9-2-m1,A7B5-A7C3-2-m1,A7C8-"
  ++ "A7CA-2-m1,A7CD-A7DB-2-m1,A7F6-A7F6-1-m1,AB53-AB53-1-m3A0,AB70-ABBF-1-m97D0,FF41-FF5A-1-m"
  ++ "20,10428-1044F-1-m28,104D8-104FB-1-m28,10597-105A1-1-m27,105A3-105B1-1-m27,105B3-105B9-1"
  ++ "-m27,105BB-105BC-1-m27,10CC0-10CF2-1-m40,10D70-10D85-1-m20,118C0-118DF-1-m20,16E60-16E7F"
  ++ "-1-m20,16EBB-16ED5-1-m1B,1E922-1E943-1-m22"

/-- Upper-case mappings to several characters. -/
def upperSpecials : List (Nat × List Char) := caseSpecialsOfText <|
  "DF:53 53,149:2BC 4E,1F0:4A 30C,390:399 308 301,3B0:3A5 308 301,587:535 552,1E96:48 331,1"
  ++ "E97:54 308,1E98:57 30A,1E99:59 30A,1E9A:41 2BE,1F50:3A5 313,1F52:3A5 313 300,1F54:3A5 31"
  ++ "3 301,1F56:3A5 313 342,1F80:1F08 399,1F81:1F09 399,1F82:1F0A 399,1F83:1F0B 399,1F84:1F0C"
  ++ " 399,1F85:1F0D 399,1F86:1F0E 399,1F87:1F0F 399,1F88:1F08 399,1F89:1F09 399,1F8A:1F0A 399"
  ++ ",1F8B:1F0B 399,1F8C:1F0C 399,1F8D:1F0D 399,1F8E:1F0E 399,1F8F:1F0F 399,1F90:1F28 399,1F9"
  ++ "1:1F29 399,1F92:1F2A 399,1F93:1F2B 399,1F94:1F2C 399,1F95:1F2D 399,1F96:1F2E 399,1F97:1F"
  ++ "2F 399,1F98:1F28 399,1F99:1F29 399,1F9A:1F2A 399,1F9B:1F2B 399,1F9C:1F2C 399,1F9D:1F2D 3"
  ++ "99,1F9E:1F2E 399,1F9F:1F2F 399,1FA0:1F68 399,1FA1:1F69 399,1FA2:1F6A 399,1FA3:1F6B 399,1"
  ++ "FA4:1F6C 399,1FA5:1F6D 399,1FA6:1F6E 399,1FA7:1F6F 399,1FA8:1F68 399,1FA9:1F69 399,1FAA:"
  ++ "1F6A 399,1FAB:1F6B 399,1FAC:1F6C 399,1FAD:1F6D 399,1FAE:1F6E 399,1FAF:1F6F 399,1FB2:1FBA"
  ++ " 399,1FB3:391 399,1FB4:386 399,1FB6:391 342,1FB7:391 342 399,1FBC:391 399,1FC2:1FCA 399,"
  ++ "1FC3:397 399,1FC4:389 399,1FC6:397 342,1FC7:397 342 399,1FCC:397 399,1FD2:399 308 300,1F"
  ++ "D3:399 308 301,1FD6:399 342,1FD7:399 308 342,1FE2:3A5 308 300,1FE3:3A5 308 301,1FE4:3A1 "
  ++ "313,1FE6:3A5 342,1FE7:3A5 308 342,1FF2:1FFA 399,1FF3:3A9 399,1FF4:38F 399,1FF6:3A9 342,1"
  ++ "FF7:3A9 342 399,1FFC:3A9 399,FB00:46 46,FB01:46 49,FB02:46 4C,FB03:46 46 49,FB04:46 46 4"
  ++ "C,FB05:53 54,FB06:53 54,FB13:544 546,FB14:544 535,FB15:544 53B,FB16:54E 546,FB17:544 53D"

/-- Binary search for the run holding `c`, at most `fuel` halvings. -/
def findRun (t : Array CaseRun) (c : Nat) : Nat → Nat → Nat → Option CaseRun
  | 0, _, _ => none
  | fuel + 1, lo, hi =>
    if lo < hi then
      let mid := (lo + hi) / 2
      match t[mid]? with
      | some r =>
        if c < r.lo then findRun t c fuel lo mid
        else if c > r.hi then findRun t c fuel (mid + 1) hi
        else if (c - r.lo) % r.stride == 0 then some r else none
      | none => none
    else none

/-- A character through a mapping: several characters, one moved, or itself. -/
def mapChar (runs : Array CaseRun) (specials : List (Nat × List Char)) (c : Char) : List Char :=
  match specials.find? (·.1 == c.toNat) with
  | some (_, cs) => cs
  | none =>
    match findRun runs c.toNat 64 0 runs.size with
    | some r => [Char.ofNat (((c.toNat : Int) + r.delta).toNat)]
    | none => [c]

/-- The full lower-case mapping of one character. The tables move no ASCII character but
`A`-`Z`, so ASCII is mapped without them. -/
def lowerChar (c : Char) : List Char :=
  if c.toNat < 128 then [c.toLower] else mapChar lowerRuns lowerSpecials c

/-- The full upper-case mapping of one character; ASCII, as for `lowerChar`, without the
tables. -/
def upperChar (c : Char) : List Char :=
  if c.toNat < 128 then [c.toUpper] else mapChar upperRuns upperSpecials c

/-- The `Cased` code points. -/
def casedTable : Ranges := Ranges.ofText <|
  "41-5A,61-7A,AA-AA,B5-B5,BA-BA,C0-D6,D8-F6,F8-1BA,1BC-1BF,1C4-293,295-2B8,2C0-2C1,2E0-2E4"
  ++ ",345-345,370-373,376-377,37A-37D,37F-37F,386-386,388-38A,38C-38C,38E-3A1,3A3-3F5,3F7-481"
  ++ ",48A-52F,531-556,560-588,10A0-10C5,10C7-10C7,10CD-10CD,10D0-10FA,10FC-10FF,13A0-13F5,13F"
  ++ "8-13FD,1C80-1C8A,1C90-1CBA,1CBD-1CBF,1D00-1DBF,1E00-1F15,1F18-1F1D,1F20-1F45,1F48-1F4D,1"
  ++ "F50-1F57,1F59-1F59,1F5B-1F5B,1F5D-1F5D,1F5F-1F7D,1F80-1FB4,1FB6-1FBC,1FBE-1FBE,1FC2-1FC4"
  ++ ",1FC6-1FCC,1FD0-1FD3,1FD6-1FDB,1FE0-1FEC,1FF2-1FF4,1FF6-1FFC,2071-2071,207F-207F,2090-20"
  ++ "9C,2102-2102,2107-2107,210A-2113,2115-2115,2119-211D,2124-2124,2126-2126,2128-2128,212A-"
  ++ "212D,212F-2134,2139-2139,213C-213F,2145-2149,214E-214E,2160-217F,2183-2184,24B6-24E9,2C0"
  ++ "0-2CE4,2CEB-2CEE,2CF2-2CF3,2D00-2D25,2D27-2D27,2D2D-2D2D,A640-A66D,A680-A69D,A722-A787,A"
  ++ "78B-A78E,A790-A7DC,A7F1-A7F6,A7F8-A7FA,AB30-AB5A,AB5C-AB69,AB70-ABBF,FB00-FB06,FB13-FB17"
  ++ ",FF21-FF3A,FF41-FF5A,10400-1044F,104B0-104D3,104D8-104FB,10570-1057A,1057C-1058A,1058C-1"
  ++ "0592,10594-10595,10597-105A1,105A3-105B1,105B3-105B9,105BB-105BC,10780-10780,10783-10785"
  ++ ",10787-107B0,107B2-107BA,10C80-10CB2,10CC0-10CF2,10D50-10D65,10D70-10D85,118A0-118DF,16E"
  ++ "40-16E7F,16EA0-16ED5,1D400-1D454,1D456-1D49C,1D49E-1D49F,1D4A2-1D4A2,1D4A5-1D4A6,1D4A9-1"
  ++ "D4AC,1D4AE-1D4B9,1D4BB-1D4BB,1D4BD-1D4C3,1D4C5-1D505,1D507-1D50A,1D50D-1D514,1D516-1D51C"
  ++ ",1D51E-1D539,1D53B-1D53E,1D540-1D544,1D546-1D546,1D54A-1D550,1D552-1D6A5,1D6A8-1D6C0,1D6"
  ++ "C2-1D6DA,1D6DC-1D6FA,1D6FC-1D714,1D716-1D734,1D736-1D74E,1D750-1D76E,1D770-1D788,1D78A-1"
  ++ "D7A8,1D7AA-1D7C2,1D7C4-1D7CB,1DF00-1DF09,1DF0B-1DF1E,1DF25-1DF2A,1E030-1E06D,1E900-1E943"
  ++ ",1F130-1F149,1F150-1F169,1F170-1F189"

/-- The `Case_Ignorable` code points. -/
def caseIgnorableTable : Ranges := Ranges.ofText <|
  "27-27,2E-2E,3A-3A,5E-5E,60-60,A8-A8,AD-AD,AF-AF,B4-B4,B7-B8,2B0-36F,374-375,37A-37A,384-"
  ++ "385,387-387,483-489,559-559,55F-55F,591-5BD,5BF-5BF,5C1-5C2,5C4-5C5,5C7-5C7,5F4-5F4,600-"
  ++ "605,610-61A,61C-61C,640-640,64B-65F,670-670,6D6-6DD,6DF-6E8,6EA-6ED,70F-70F,711-711,730-"
  ++ "74A,7A6-7B0,7EB-7F5,7FA-7FA,7FD-7FD,816-82D,859-85B,888-888,890-891,897-89F,8C9-902,93A-"
  ++ "93A,93C-93C,941-948,94D-94D,951-957,962-963,971-971,981-981,9BC-9BC,9C1-9C4,9CD-9CD,9E2-"
  ++ "9E3,9FE-9FE,A01-A02,A3C-A3C,A41-A42,A47-A48,A4B-A4D,A51-A51,A70-A71,A75-A75,A81-A82,ABC-"
  ++ "ABC,AC1-AC5,AC7-AC8,ACD-ACD,AE2-AE3,AFA-AFF,B01-B01,B3C-B3C,B3F-B3F,B41-B44,B4D-B4D,B55-"
  ++ "B56,B62-B63,B82-B82,BC0-BC0,BCD-BCD,C00-C00,C04-C04,C3C-C3C,C3E-C40,C46-C48,C4A-C4D,C55-"
  ++ "C56,C62-C63,C81-C81,CBC-CBC,CBF-CBF,CC6-CC6,CCC-CCD,CE2-CE3,D00-D01,D3B-D3C,D41-D44,D4D-"
  ++ "D4D,D62-D63,D81-D81,DCA-DCA,DD2-DD4,DD6-DD6,E31-E31,E34-E3A,E46-E4E,EB1-EB1,EB4-EBC,EC6-"
  ++ "EC6,EC8-ECE,F18-F19,F35-F35,F37-F37,F39-F39,F71-F7E,F80-F84,F86-F87,F8D-F97,F99-FBC,FC6-"
  ++ "FC6,102D-1030,1032-1037,1039-103A,103D-103E,1058-1059,105E-1060,1071-1074,1082-1082,1085"
  ++ "-1086,108D-108D,109D-109D,10FC-10FC,135D-135F,1712-1714,1732-1733,1752-1753,1772-1773,17"
  ++ "B4-17B5,17B7-17BD,17C6-17C6,17C9-17D3,17D7-17D7,17DD-17DD,180B-180F,1843-1843,1885-1886,"
  ++ "18A9-18A9,1920-1922,1927-1928,1932-1932,1939-193B,1A17-1A18,1A1B-1A1B,1A56-1A56,1A58-1A5"
  ++ "E,1A60-1A60,1A62-1A62,1A65-1A6C,1A73-1A7C,1A7F-1A7F,1AA7-1AA7,1AB0-1ADD,1AE0-1AEB,1B00-1"
  ++ "B03,1B34-1B34,1B36-1B3A,1B3C-1B3C,1B42-1B42,1B6B-1B73,1B80-1B81,1BA2-1BA5,1BA8-1BA9,1BAB"
  ++ "-1BAD,1BE6-1BE6,1BE8-1BE9,1BED-1BED,1BEF-1BF1,1C2C-1C33,1C36-1C37,1C78-1C7D,1CD0-1CD2,1C"
  ++ "D4-1CE0,1CE2-1CE8,1CED-1CED,1CF4-1CF4,1CF8-1CF9,1D2C-1D6A,1D78-1D78,1D9B-1DFF,1FBD-1FBD,"
  ++ "1FBF-1FC1,1FCD-1FCF,1FDD-1FDF,1FED-1FEF,1FFD-1FFE,200B-200F,2018-2019,2024-2024,2027-202"
  ++ "7,202A-202E,2060-2064,2066-206F,2071-2071,207F-207F,2090-209C,20D0-20F0,2C7C-2C7D,2CEF-2"
  ++ "CF1,2D6F-2D6F,2D7F-2D7F,2DE0-2DFF,2E2F-2E2F,3005-3005,302A-302D,3031-3035,303B-303B,3099"
  ++ "-309E,30FC-30FE,A015-A015,A4F8-A4FD,A60C-A60C,A66F-A672,A674-A67D,A67F-A67F,A69C-A69F,A6"
  ++ "F0-A6F1,A700-A721,A770-A770,A788-A78A,A7F1-A7F4,A7F8-A7F9,A802-A802,A806-A806,A80B-A80B,"
  ++ "A825-A826,A82C-A82C,A8C4-A8C5,A8E0-A8F1,A8FF-A8FF,A926-A92D,A947-A951,A980-A982,A9B3-A9B"
  ++ "3,A9B6-A9B9,A9BC-A9BD,A9CF-A9CF,A9E5-A9E6,AA29-AA2E,AA31-AA32,AA35-AA36,AA43-AA43,AA4C-A"
  ++ "A4C,AA70-AA70,AA7C-AA7C,AAB0-AAB0,AAB2-AAB4,AAB7-AAB8,AABE-AABF,AAC1-AAC1,AADD-AADD,AAEC"
  ++ "-AAED,AAF3-AAF4,AAF6-AAF6,AB5B-AB5F,AB69-AB6B,ABE5-ABE5,ABE8-ABE8,ABED-ABED,FB1E-FB1E,FB"
  ++ "B2-FBC2,FE00-FE0F,FE13-FE13,FE20-FE2F,FE52-FE52,FE55-FE55,FEFF-FEFF,FF07-FF07,FF0E-FF0E,"
  ++ "FF1A-FF1A,FF3E-FF3E,FF40-FF40,FF70-FF70,FF9E-FF9F,FFE3-FFE3,FFF9-FFFB,101FD-101FD,102E0-"
  ++ "102E0,10376-1037A,10780-10785,10787-107B0,107B2-107BA,10A01-10A03,10A05-10A06,10A0C-10A0"
  ++ "F,10A38-10A3A,10A3F-10A3F,10AE5-10AE6,10D24-10D27,10D4E-10D4E,10D69-10D6D,10D6F-10D6F,10"
  ++ "EAB-10EAC,10EFA-10EFF,10F46-10F50,10F82-10F85,11001-11001,11038-11046,11070-11070,11073-"
  ++ "11074,1107F-11081,110B3-110B6,110B9-110BA,110BD-110BD,110C2-110C2,110CD-110CD,11100-1110"
  ++ "2,11127-1112B,1112D-11134,11173-11173,11180-11181,111B6-111BE,111C9-111CC,111CF-111CF,11"
  ++ "22F-11231,11234-11234,11236-11237,1123E-1123E,11241-11241,112DF-112DF,112E3-112EA,11300-"
  ++ "11301,1133B-1133C,11340-11340,11366-1136C,11370-11374,113BB-113C0,113CE-113CE,113D0-113D"
  ++ "0,113D2-113D2,113E1-113E2,11438-1143F,11442-11444,11446-11446,1145E-1145E,114B3-114B8,11"
  ++ "4BA-114BA,114BF-114C0,114C2-114C3,115B2-115B5,115BC-115BD,115BF-115C0,115DC-115DD,11633-"
  ++ "1163A,1163D-1163D,1163F-11640,116AB-116AB,116AD-116AD,116B0-116B5,116B7-116B7,1171D-1171"
  ++ "F,11722-11725,11727-1172B,1182F-11837,11839-1183A,1193B-1193C,1193E-1193E,11943-11943,11"
  ++ "9D4-119D7,119DA-119DB,119E0-119E0,11A01-11A0A,11A33-11A38,11A3B-11A3E,11A47-11A47,11A51-"
  ++ "11A56,11A59-11A5B,11A8A-11A96,11A98-11A99,11C30-11C36,11C38-11C3D,11C3F-11C3F,11C92-11CA"
  ++ "7,11CAA-11CB0,11CB2-11CB3,11CB5-11CB6,11D31-11D36,11D3A-11D3A,11D3C-11D3D,11D3F-11D45,11"
  ++ "D47-11D47,11D90-11D91,11D95-11D95,11D97-11D97,11EF3-11EF4,11F00-11F01,11F36-11F3A,11F40-"
  ++ "11F40,11F42-11F42,11F5A-11F5A,13430-13440,13447-13455,1611E-16129,1612D-1612F,16AF0-16AF"
  ++ "4,16B30-16B36,16B40-16B43,16D40-16D42,16D6B-16D6C,16F4F-16F4F,16F8F-16F9F,16FE0-16FE1,16"
  ++ "FE3-16FE4,1AFF0-1AFF3,1AFF5-1AFFB,1AFFD-1AFFE,1BC9D-1BC9E,1BCA0-1BCA3,1CF00-1CF2D,1CF30-"
  ++ "1CF46,1D167-1D169,1D173-1D182,1D185-1D18B,1D1AA-1D1AD,1D242-1D244,1DA00-1DA36,1DA3B-1DA6"
  ++ "C,1DA75-1DA75,1DA84-1DA84,1DA9B-1DA9F,1DAA1-1DAAF,1E000-1E006,1E008-1E018,1E01B-1E021,1E"
  ++ "023-1E024,1E026-1E02A,1E030-1E06D,1E08F-1E08F,1E130-1E13D,1E2AE-1E2AE,1E2EC-1E2EF,1E4EB-"
  ++ "1E4EF,1E5EE-1E5EF,1E8D0-1E8D6,1E944-1E94B,1F3FB-1F3FF,E0001-E0001,E0020-E007F,E0100-E01E"
  ++ "F"

/-- Whether a character has a case of its own. -/
def isCased (c : Char) : Bool := casedTable.contains c.toNat

/-- Whether a character is passed over when looking for the cased letter next to a sigma. -/
def isCaseIgnorable (c : Char) : Bool := caseIgnorableTable.contains c.toNat

/-- Whether a cased letter comes first among the characters, over case-ignorable ones. -/
def casedFirst : List Char → Bool
  | [] => false
  | c :: rest => if isCaseIgnorable c then casedFirst rest else isCased c

/-- Lower-cases characters; `before` holds the characters already passed, nearest first. -/
def lowerList (before : List Char) : List Char → List Char
  | [] => []
  | c :: rest =>
    let mapped :=
      if c.toNat == 0x3A3 && casedFirst before && !casedFirst rest then [Char.ofNat 0x3C2]
      else lowerChar c
    mapped ++ lowerList (c :: before) rest

/-- The full lower-case form of a string. -/
def lower (s : String) : String := String.ofList (lowerList [] s.toList)

/-- The full upper-case form of a string. -/
def upper (s : String) : String := String.ofList (s.toList.flatMap upperChar)

end Text

end ApiSpec
