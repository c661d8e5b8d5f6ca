import EspMid.Model.BaseField
import EspMid.Model.PointArithmetic

/-! # The generator's table

`vendor/p256/src/arithmetic/generator_table.rs`: 52 rows of 16 entries, each two field elements in
Montgomery form, written as the numbers of their words. -/

namespace EspMid.Model.GeneratorTable

open EspMid.Lib.Words EspMid.Model.BaseField EspMid.Model.PointArithmetic EspMid.P256.Field

/-- The numbers of the table. -/
def ROWS : List (List (ℕ × ℕ)) := [
  [
    (0x18905f76a53755c679fb732b7762251075ba95fc5fedb60179e730d418a9143c,
     0x8571ff1825885d85d2e88688dd21f3258b4ab8e4ba19e45cddf25357ce95560a),
    (0xf6bb32e43dcf3a3b732205038d1490d9aa6ae3c1a433827d850046d410ddd64d,
     0x78c577510a5b8a3b19a8fb0e92042dbe152cd7cbeb236ff82f3648d361bee1a5),
    (0x26936a3fb6ff747e66ad77dd87cbbc98b027f84a087d81fbffac3f904eebc127,
     0xd5f06a29e587cc07788208311a2ee98e583e47ad0861fe1ab04c5c1fc983a7eb),
    (0x577362f541b0176b0cdaacace8100af24650a6edc623c17374b0b50d46918dcc,
     0x84b14c394c5ab8636b6c36dee5ddd22e17628471fad6f4472d96f24ce4cbaba6),
    (0xc9079605890523c8941cb5aad076c20c90ec649a94b9537dbe1b8aaec45c61f5,
     0x73a076bb2dd1e9163540a9877e7a1f6873c568efe5eb882beb309b4ae7ba4f10),
    (0x13074b5954213673d50a961a5b17a3ad55ae744f346cee3e403947373e77664a,
     0xa4c9916d4a07f75ff424d44cef639f11299c2b53adff14b593d36220d377e44b),
    (0x13ba5119c3123e03f43eaab50c23bb082bd20213d23c00f70746354ea0173b4f,
     0xeaedd9156e240867ef933bdc77c941956742f2f25da67bdd2847d0303f5b9d4d),
    (0xb763891eb265230d8f90f02af02cfc6b462ab5c56f9b345527f14cd19499a78f,
     0x56ec12f27706df76123c7b84be60bbf021e3327dcf9eba15f59da3a9532d4977),
    (0xe05b3080f0c4e16b2cc09c0444c8eb00abe6bfed59a7a84175c96e8f264e20e8,
     0x086659cdfd835f9b2b6e019a88b12f1a56af7bedce5d45e31eb7777aa45f3314),
    (0xcc61c94724b3428f737d2cd648250b4998f9868a0fcf81392c18dbd19dc21ec8,
     0x78719a54eb3b4ab55f7d2d65779be5d2c43a8991383fbe080c2b407880dd9e76),
    (0x3e7090f1649c90731ff3a4158dac1ab59de407956e7fdfe0ea7d260a6245e404,
     0x68930023e125b88e0c0daa891ead643d250f939ee57f61c81a7685612b944e88),
    (0x4ee1df77cb83e1562409d29dee37385eabdedef5ca345a3304b71aa7d2697768,
     0x7ff57c9553238aca28228cfa8ade6d66170ed2f6ca8956370cac12d91cbb5b43),
    (0x738477ac5395b759bcbcd43f559e98110e356769856fd30dccc425634b2ed709,
     0xfbc08769c9e7b7977cd06422bd1f5bc168748390742ed2e335752b90c00ee17f),
    (0xfaae7332fd12c72e1717bf54c6832660126e48f77f9707e3a242a35bb0cf664a,
     0x152706dc2eaa1bbbe8e4193e2a65e7dbbe29569e832237c227b52db7995d586b),
    (0xe2aa0e430ad3da09ee337424e481937003cc23ee56e27e4b72bcd8b7bc60055b,
     0x2042170a7079adf464efa6de778a4797d766355442a41b2540b8524f6383c45d),
    (0x54d63c809103b723d5ef2f7c2c83f5495882e0753ffe2e6b808b0b650bc6fb80,
     0x64edf7b201efe22055c4623bb1580e9e3670c3194b0b6587f2f11bd652a23f9b)],
  [
    (0x39227077695532a4bc6d6a58fead0197befd904c4079dfbfd8c5fccfc5e3a3d8,
     0x6231d7929591c2a47b969c1aad9a2e407e449b64480a990809e23e6ddbef42f5),
    (0x95fb8394569b38c77da70b83c2c61e01380a0913089f73b9db6d96f305968b80,
     0x296720440e8449708010a4a078424bf88f726bb98faeaf829a3c651280edfe2f),
    (0x11eddf7fd0a0da0d14f356cc6abc354d6d490a4b19dd329b802b8d2333e12b70,
     0x3f2a78b3241a2b7103b48cc47c29bca2fd2f4f8cfd0258131e208328d87fd1d8),
    (0xad311f2c46d5a6173749bba4b3ad9db57ef2b6b9ac62ff5463c5cb817a2ad62a,
     0xfa38d320ec008188f8aa266d75d6b138b46feaf3367834ffb77a8087c2ff3b6d),
    (0xe7577d57ad844a25876be3aa51cf56ee7cc69103bc117423c04afa1ae3451a09,
     0x04b48868ceaf7d4a53a7a98cda782760cfa258dc23ae4a2a266fed8cdb77f341),
    (0xde2efdc7992efb906034bcb624b4d1576fb94957811842dac0f2affc4e6916c6,
     0xf6e494962b4666f090d3235c9aa1c50102f026267dc6fdcdd66f7eceac793c87),
    (0xe9d82f5f704e8236f25071871aa87b3389ea5516b269386a082736d19c0859c3,
     0xb4b4959e5e5be37bcd9e03aae6e7e62b209f50fe395e00d87834612442e855f5),
    (0x7c3da195c0dd962c7e3d423e90f35a1550fbc6d8b9cba56d486d8ffa696946fc,
     0x399d49eb914d5e53f6ce581ff52305aa0704b7c2889dfca5e673fdb03cfd5d8b),
    (0x13d62865fee39a1023d0c8559d54ca2a37e4a4c4e2bf970a7966afbb10e6d950,
     0x4dfab986c93fbfef10674c77bfd8f608014b8bed84a80bcc15f53c38d3bd15e9),
    (0x1198de20432e800560eb4b2b89d14a39d2c271a2249a26c024c97c367b92d453,
     0x31a9f439e99c4fd8ca004eedd10061ecab6e0c2b8f826ae59eabea75799b80d9),
    (0x383902a0b4c5496895dd54fa295b1677aeccad8a29f64c2d734c8b75b5498a7c,
     0xfeba17067cf7d50da01d14594c5c163000aedca1af55286978cb276feb9d33a9),
    (0xee4b32b05946dbf6037e388db849140a733dbda78e7051f5380a496d6ec293cd,
     0x4af675f239b3e6566df593742e3ac46e5001a7b0fdb0b2f3b1c4fda9cae368d1),
    (0x910aec75aa8b7da8bcec2d076738e81a07ad675f83f843c21a1fffdcc01b0a46,
     0x134c1b6f0dfe1d903d75c8f71591f1e5057010734c7b821613b4d740a4509ba7),
    (0x7538a2fc802baa26614f67877de03a5d1212d3cfac379637b20e7c44d67826eb,
     0xf1126b99a801c4ba5d40d7574c49d1d97db390506eb4b587133c37a19d252415),
    (0x93a4c4a8c5197afbd7c6da5d049d10c621a59448e7a8bd8539a7aeb9c56729fc,
     0x22e9b000321f9236ef033de14ce7bfa94994bcba27494d9dd185539c25933861),
    (0x942370d2c21f42903e5323ed206eaff55b63827b361db1b544e3811039949296,
     0x7dc61f91966201087c0b8f47ae6312f8192cc64b7239846df2caaf2ee0d985a1)],
  [
    (0xada26e1a3ed1786389890b6c0edd6472d5ffa1d687be82cf4f7081e144cc3add,
     0xf1c794b0b1902d1f05a7fe980a466e3ce6924cd92f6077fd276f271563483caa),
    (0x3c5fe1302f76ed45d0f399afe4dd640bbff88cb3cdbe55093d2b24b9eb7926b8,
     0xfdaf6b20ec66890fd5bd0bc7d79ce5f37b5af3183151b62d6f3562f43764fb3d),
    (0xf7c2eec02a8c4f48f88497b3c0dfdd61f14b7d1773a0767832027fe891e5d7d3,
     0xa0472bea653a41841c03b34563878572c013a2401825b948aa5573f43756e621),
    (0x4a20ed2a41fb81da728f7ce4795b95801d8b6001f5eeaacf6772b0e5ab4b35a2,
     0x3a241426eb82f4f9460fd2640c2d97fd3ed7ddcca7ff50ad9f685cd44fec01e6),
    (0x18d15867146d9272af5717117429c8d2f84371348d87631a29ae2cf983dfedc9,
     0xaa5956ba3d4915255ef7791c21b0f4b2c55eb856c479ab8283053ecf69769bb7),
    (0xe4b7839c4716a663263984030dd50942d3baf14c6796068184cfbfa1c5c5ea50,
     0x8d933552953e06075295f3f159acfeec5cd0f4d4622aa7ced5f1f794e7de6dc0),
    (0x8e6e24889e9c9bfb838752be0e80f500d94f7b182bbb4381e652533b3cef0d7d,
     0x2d016ec16037c407c917e2397151ade1866c49d838531ad9c975169716caca6a),
    (0xb58ae74ef6f8308527f3a83b7aa2cda40c3357a35bd3a18280009862d5d721d5,
     0xe7312ec00ae1e24e4bdccc41f996c4d8de286051f43d6c5b2a911a812e6dad6b),
    (0x155810068d2e924e9deff025354890b8b2b58bee98bf140d903f6e3960e913af,
     0xa43e2b46ab47ceff9377c8c109b6d8e03fac42f0dae20eb8b5755db493c95e5b),
    (0x1362bf8ddf4381dab9e89acac4db2092874b1498c1b5aa6b5f57b2fbfacfa459,
     0x7895a29f22dd42c9b43e941429132f7d38188b7098572ae425d76830b76328a0),
    (0x9fce23fd48e84a194289f357b6a4273bf449c85b76bb4391cbde78dd5e22cbb2,
     0x781954b470769fc95ac234bad5f1346c8b3d982c16c32280cfc32730939eb3b4),
    (0x2fb3a0d6734d5d807e3321a86e94052a78f4cc155602b0c96faf68feaae6ee70,
     0x12f775e42eb821d07ffee43321b0612a30bf803119ee2951f3b98f3bb25a43ba),
    (0x1359927ef523775f02a3abd3c7969a6f9bd65ac3f952ac8d4fdff805f57209b5,
     0x0afbbb1dd67dc684821e64495a70eb7a661d2199623287c3e09b463f88d2e861),
    (0xf066b9c8f90a9f7edd5bc6e4eb84658b227f16aed852251f7418e3d3acff89f9,
     0x3d82f64f5e2d83185b48465d8a776da5383ddc0d5a72862ac2369071800a7f87),
    (0x3a82ed4799362088300e78e4817cfc08073e8128b387344d5852104b87453b28,
     0x4b2955b909e050fa40b2d08ea0c8e108666c94fd57fadf4ae222304c88de46a4),
    (0x7161957d21d9555148e3ee41684a2f6d4d3e24db771c52f8f8d112e76e6485b3,
     0x3aefa7aeaee8cc38f6254b633166cc73bf3fa8822e50e16419631283cdb12a6c)],
  [
    (0x23f637719b095825136e64a0958482ef26543b23fde19fc079b0fe623b36f9fd,
     0x5fb89d79003dc12a86a0e8bdf3081dd55ea6aac6335aac0b14cfd596b6a1142e),
    (0x4564bade47ac62191fa4efa220284e7ae00e7f9dbd495d9e0f0165fce3779ee3,
     0x47f7ccb11e94b415e95f55ae3d684b9f4f5725fba71e9adf90e6312ac4708e8e),
    (0x37c64e36aa4bb3f71f1b9e48d924fd5669c908c3bbcd6c18da3a77e5522e6b69,
     0x1fb08f0846fad15184bc1e8456cd16dfba75c8bc0193f7a05a4fdbdfee478d7d),
    (0x3dbde4ac44af2922022295eb8533316c3604dc600cfd61423617890361a341c1,
     0x6f0d1f3040ef730b05002160203c21ca58896805d14f4fa1898afc5d1c7eef69),
    (0x899b055c92c5fc41e1fe114ec9e874e83eee129c292f74e548201b4b12cfe297,
     0x85132b2adc949c636fd3fd8fd333f86382f09efe78963cc94e477a643a39c8cf),
    (0x7c9a9d20ec2687d5b9937a4b63879697ec51caa94fb74a72bd9b8b1dbe7a2af3,
     0x50393755fcb6ff2a387bd0228142161e8abcf412e90c69001773e44f6ef5f014),
    (0xa88c68b84023890da49f53417a029cf2205fee425cfca031766e072232398baa,
     0x2e9e194104e38a88e0816f8529aba92f9ed364ad0eb384f4bc2750417337aaa8),
    (0xd68835039a3eab3fea1285a8bb4f012d8ec86167adeb838ffabf770977f7195a,
     0x8f5c2ee5b6739a530cdffe12bd223ea4a96e4b7613ffe95eee5d24f8309004c2),
    (0xc58215b07c1e5a369611ff5c3aa9552940960f36932a65deecace1dda1887395,
     0x0dd036eea33ecf82c7605e049cd95662b406856bf590dfb8d48c9b58f0e1a524),
    (0xf6877b2797a1c59082d11be32d8a52a0cd9bc368fa4063373d61333959145a65,
     0x840fa5a07945511b622a7de774990e5f2a4fd1d8de090249837a819bf5cbdb25),
    (0x777708c5f0595067eeeb510c1eb6ae86e132bd2407472273fe2893277946d3f9,
     0x8ac06c36da1ea530e466c2586b85d6d92c61095cbbf9305e18e2c8cd1297029e),
    (0xb0d8b2da36f1e1cb07b1f8fc669c145a6438d2462615b5e7e58e90b36b0cf82e,
     0x2afa8c8da0a486090a3e0f56d1147d473dbb18d5f93d997654d5dadbd9184c4d),
    (0x3df86536110ed4af8737650e20d4c08314bcf72aa74cbb43871239ad653ae326,
     0x7ccfe3ccf01167b6cf81bda31ad38468688cb00dabd5d538d2d86fe7b53ca555),
    (0xbdfe0d8f7c476cf89d60ec3d8d2dc4edd7222e6a2e341c9926e08c07e3533d77,
     0xfeb874eb4a7f1b108489941e47fb8d8ca9ea9df686a8551f1fe59ab61d056605),
    (0x0d6de7bd3babb11f172bbd656417231ee852d1a8f66a8ad161fc181060a71676,
     0x97f0f334796e83ba78e54ed0340769501c5875479bd99cc36fde6f88c8e347f8),
    (0x622a0492df99333e61ae291ec7e62ec4c21486a065303da1ed406aa9bd763802,
     0xd540cb1a469f671f35c35a1208be74ecdc2ed3bc6c01aedb7fd80c9dbb7a8ee0)],
  [
    (0x5e6e21354bd012f3593a15cfb9548c9b267e4ea1b9dc7035a7a8746a584c5e20,
     0x6fef4e61b9b962cb63990a6f345efb868af84d04b5c241dcdf31cc6a8c8f936e),
    (0x85c7888037eee82940eb353bfab4f7ac131260db131cf5c6f6368f0925722608,
     0xb81d1c0f0295e0ca35e8c83fa14e6f405bff75cbf5c3c5a84c1581ffc3bdf24e),
    (0x191ae46f120a8e65a9df2d8bdc0aa5e5c3816a7d06b9c164f2efe23d442a8ad1,
     0xfa4a73eef48d1a1333a2ecf8ca69595283171ed7ff10994883667f8700611c5b),
    (0x82b79afe98bea5dbc823f529ad03240be89b6f3c33ab590efcde7cc8f43a730f,
     0x3b662498b3203f4c1fc74a144a28a8580c590adb60c591f3568f2856962fe5de),
    (0xd31ec55c706ecd432463cb9a005d6aaa5783a13867b703af48fc4ed082dd1b6a,
     0x442b80505a795566a3beade4ec887493625453ed098d9e7a9f8ed33f8e9a7641),
    (0x2414582ccf43cf1a288f2f08cb953b50a2db3acdac3cca0b91e3cf0d6c39765a,
     0xa672303acf82e15fd81cd5ec6532f5d554c79f02729aa0428dec8bbc60eee9a8),
    (0xb6940f540dc0f97936a7766a147a1bc392474e042f8adade46df582d3bfab839,
     0x5e788bf2b22180d52859b7f40750c3459dd95789a719f4c644738ef2f2759f25),
    (0x14ff052f4418b08e303fdb9fcb750cd3cd8ad2dcbc5fc79f376aafa8719c0563,
     0x86ad71cfa354d837f43bf0f2d3f25b987ebdf0f8144ed509f75084cf3e2d6520),
    (0x92dbe372b13edcbb2414a7930e7b2a65023e626860f2015ca839c9fdfd67ca25,
     0x7985c1915a1e833101411a6a3f1367bb94fb9cdf8446f2f3f64981ee64c2200f),
    (0x85c0e37a66623d68315dd23a539094c1dfd3ab5b5d824758b827fe9226f43572,
     0x635b9485140ad453a1ebb3c826b1ff7e616a3396df0d36b5575c79727be19ae0),
    (0xf176b5bab7de00ff466a346b973e4a958d49b502034a96f6c8123c6037e2efea,
     0xb155ba82e2298bba57c67a67a12b187c2eb27a9609e429ae1c58fa3b82dfa945),
    (0x95de4f49ab8c25e4c91cf0a515ac326a4702850e3a96dac692bf3cdada430c0b,
     0xe17cb3186ead97a6d43e583ce1fac5ca24e45464087b3881b01bad09e265c17c),
    (0xb0ee5143a901b9102e455142d245956959db703ce8becf6df1a542073d99bcfa,
     0xaf930348d335b8b0df1ded5f4fa639b17a6062b41360caaffc05d451e26d994f),
    (0x8819dd95d1773f8982917844f26cd99c33cfc02d54c2b73f6cc3924374dcec46,
     0x4eb357eae75e8e507fa52988bff1f5af8e0cf365f6f01c3409572aa60871f427),
    (0x699cd2b5287d6c5fcb56c953c2e2a6bfade3bd649bd5a4b63d8f248a21fd0861,
     0x92c49e6ceec6987a97163beaa5852b081a4fbb13a8f53732debce1be47d05e8f),
    (0xff5d55f3611824edab471996cc81ecb0d7325cff45c8c7ead9d0c8c4868af75d,
     0x894ad8a6c8e2a0822d5335bff94bb4955085c4c5722038c6be3145411977a0ee)],
  [
    (0x3660106867b63142f9a968daeec5f25d2d0366dded4c74a3540234b22c11bb37,
     0x4b5f7e89fe62aee4e27514047768b1eea8f74f090c84294207cd6d2c68d7b6d4),
    (0x4984d8c02be8d0fc5251d75956766f450ff0ae86da9d1869f2369f0b879fbbed,
     0x32c0087c51d0d251ab9828c5d26c50f329bd54a03a1a1c497ecc95a6d21008f0),
    (0x39f8db14157f0eb9449de60e19f35cb1cefab5610abb373447feeb6662b5f3af,
     0x0d5a8186871ad9537f8fabed224e1cc2a5a4d41d41216703ffaecc5b3c61bfd6),
    (0x741b32e579f19d373062ffb27fff2a7ca20cec41b86d2952190d8ea601799a52,
     0x1641caaac6061f5b09735fb01cecb5887a2d0ed416aef06bf80d81814eb57d47),
    (0xaf4513d72b65a26e006f6a8aa0b6055cc0e2a4631acd0705ae2ad171656e8c3a,
     0xbcbeace5913a4e77e8b10bc1b8ce243a64ee395571253b1f3f549e14d616d5bc),
    (0x73d0b6c28444f703de19aa1b38f3b15320423b4d19e7284e68d32256f779d6a7,
     0x7174ad4aa656502e6f5277fe6133156399587c3737256224666161489c64e6a3),
    (0x8abe64535720cf5d7885b542fc6cbb9a15d9bf5eb2c9ef97ec1ffc920133918d,
     0xaba82444f437a003788ed52a31bb61cf57a67614279c24a34e715dced4ec68ab),
    (0xacf9a2f209e414ecaa9097d7e1112357206828b6924302067f99824f20151427,
     0x4c630fc4f62dd09c54fab5bbd2b288e27e0734b7001efee3dbdac9da27915356),
    (0x8440cd8b0eeae40548d9d445d4d8487d9bd884c1d05de7136d883e66bd70a5e1,
     0xbfeadd2900d4a09763a078663ffa2ca73fd9453022a3c5e4a3cd0f293d26f83e),
    (0x6b1630c4443065bb476c7c94e2e8da08940043fbd33915db13aea559d68432ba,
     0xdef84327f6fa6075751c9310f0157d8e7e1e98c22eb35abdd6d8546d19f06c75),
    (0x925016e5b891bc8c5ea2c50e2a19eb24fb8f4aef9d79d314765b993c3a7a4e0e,
     0x6c0213735d076d770a9922c815f6132b0abba84cf08fabe28f70afdc3ad1ece7),
    (0x0ebfa612046d9cb30032e12aa1cdd6521705494b993d112c00af2615a4453961,
     0x837838a372acb77cd5b24d903e77c5c98f3618a2de022b059f03a9f31b63728c),
    (0x139f1d329a9f381d9aba0d3d8fec802fde872ef53f8b11a1fe65cbd98fceb047,
     0x144285716cbaca1f059ec4e3ed5d9d06066a015cb9f6a7da0721aed9c587958d),
    (0x6521a09cef656e2f7d372117bad3afa43f61bea47b2e51b666fe0fffe298cdf5,
     0x6132e2f31f49a03cfe81588d5c4be57325203a115a47ebc7b3b8c966e8a58fe7),
    (0x15ed15b020e9ccb1e1a4a593940a980b60e8968ff17725c2ec1ab0130f8c2c99,
     0x8372cd1a1c94ae53294fe02dc31fb65190d09c334168738277d754cc64a00bec),
    (0x24ab68d7c4ae852957df14debcdaccd1b49258d86bc857b58537107a1ac2703b,
     0x80b360f84fb995be84aedd5a291db9b35f8740c8c495cc807ed8b5d4734e59d0)],
  [
    (0x33331d3c36bf9efcd39923b9773b279c598b441dca1554dc55d5c68da61a76fa,
     0xdcdb9dae6f7879ba94c855ea57b8ab70cfdb8e77a1a27f562d4c848e298de399),
    (0xc246780a9ed07a1fb03510baa8b68b8b9f943fb70e76d5cb4c4f07367f636a38,
     0xb300fadc7bd282e3955e2c69d8d95413c2953f31607781ca3c0514156d549fc2),
    (0xbb1dac6f5ad1d29742b091eccbc6da0afd9236e0899b8bf3a14b1163c27901b4,
     0x1f374bb4df450d762d87c3ba13efcf774110a412d31f1ee780e61d53a91cf76e),
    (0xd953c50ddbdf58e9a9d4a7caa785ebc8d0981eac26b372f0202886024147519a,
     0x863ebb7e9eb288f37fd9611022eb64cf72e9626b44e6c9179d6361ccfd590f8f),
    (0xb39af66e0b9d283988d8e211d67d4826cb3d0a861985466515e10a0a097e4403,
     0xd290d33afe0fd5e0fedb1485da27c26ce06b7966c077b80ba5f94588bd475ca8),
    (0x25e94efb8f8f4e43bf9aaa0f076a7bc805b10da0437c622e686202f31306583d,
     0xcede65958361de60a77e3843ebc394cee0e5fb9396ff03c58a35c9b7fa3dc26d),
    (0x3ba62aa66e4660d9ba18f9ed5ab0d6932cde42aab7c267d4bf9075090c22b540,
     0x666c5b9e7ed4a6a44e6a45067c4d9bd55d039642e3b60e32b24bf97bab9ea96a),
    (0xf9fb18a004e672a6734257c5c00fb396d50301ae3998b620877b7cf5678a31b0,
     0xba2f2a9804e76b8c4b8eaedf7dfd93b71e64e4c65d99ba44ff8bd8ebe8758851),
    (0xb0b9e864fee9a43df2b569c7839dff0d1339b5ac8a2f1cf3ae02a2f09b56ddbd,
     0x9bafec2701d35f5e3ab7beacf86f689a145a2812fd249f634ff8ca4177bb064e),
    (0xa03907ba6525bb61fd9c80fe556d4aa3345342f21b932522bba23fddae57c7b7,
     0x66a27dca0d32f2b28e14192094f2e6eac066b654aa52117b38b010e1ff218933),
    (0x69b1dded75ff77f5093581ec97890015281850fbe1330076b2e6b121fbabbe92,
     0x3c9f1b8788ed48ad3151f85feb914009953ced31a89ccfef7cf0b18fab105105),
    (0x5b89a4e7d39707f720387f2795cd67b500fd2b80bba7fca1a18f07e0e90fb21e,
     0x5f548f314e7bb025c79563c7f906c13ba0025b946c2261328f83ad3f894407ce),
    (0xc447ad7a35ed658f702278fb87e1db6cbf8a1abee5b6ec20ff7589494fde0c1f,
     0x46736b8b03be1d829bc7c89e6e17cecc80acb338819a7c0348d4aa3803d0ccf2),
    (0xa1f8fbd7384f8a8f9d0d5e36126bfd45054a0766dfa59b852126f742d43b5eaa,
     0x10aad9182994a514e00b81b227b578cf48ca5055f280a928317680f5d563fccc),
    (0x4d542a16909209041f689e2f4f43d43a07689e990a9d47f8e63f301f358bcdc0,
     0x29749558c08a6db61033bf1b0090008cd061fe458ac68065aea293d59ca0a707),
    (0x9379ae1550a619679f59698d643322fd042e65580356bae50ee6d3a7c35d8794,
     0xab09f647f99504282454b3025e4e65ebaed3d6316d2934c664b9ae62fcc9981e)],
  [
    (0x7a823a40e6430bb55659b7045afdee281f6ec0ef3264e366b2083a1222248acc,
     0x1efe9ed3d3ca65a752b6463f4b5ea54acde09d4ac9ee657624592a04e1900a79),
    (0x9c479409c7762de4f54a6876387d4d8f8eb7dc7fdd5d1957e27a6dbe305406dd,
     0x140deabe1566e4ae602d37f3dac740e325380c566e793682be4d5b5d99b30778),
    (0xd049d7309aad93f9d208dd0cb596f2dad8f0fccae1f71ccf4481d067afd32acf,
     0x7270749090f034028cfde1ff835e0eda09411bb123f707b4c79f263d42ab580e),
    (0xc3c3a8e9a768638151a3f1e8c69bfc17024f3b65e14f0d06eaee6126c49a861e,
     0xd6848b56d02aebfac67f75eb7651504a02bc46139218b36b3400752cb103d4c8),
    (0xfa9423bb069082289085c4ea3f83169b5a70d96d9a552784bd9802e6c30fa92b,
     0xfd96bc709153218e9cbc2f7f6317884685da604971b991182ffebe12fe97a5b9),
    (0x6f0e96afe3088048bb5c60645f385153ae34bf792597e550958381db1782269b,
     0xe020f0e517896d4d17c9429504fad2deb3b5688c69310ea7bf6a021577884456),
    (0x72cfa97741d22b9f470620106331ab71567f6813095e2ec5730ba0ab0976505f,
     0x8f34f1ccfc55b9f3ba1d8f9c03029d15a8d0d5f47ba45a6833e55ead8a2373da),
    (0xa39b6663b8bd61a00036973a481058268187fd5f3126bd67cca4428dbbe5a1a9,
     0x7b2f3a49d2873077f611ee47dd5d564c4969044f94636b196d42deef2d65a808),
    (0xa2864e4fa6243ea4c000dd76d3a47aa92b2a656e169c149494157d45300eb294,
     0x46be862ad7f85d673b9a2c56e0b2f6dc12dfd7d761479fb782716c47db89842e),
    (0x8b8888baa84117f8f32e5c0318d79e19460c34f9f103cbc603b0d8dd0f82b214,
     0x9bf02213adecc0e0d47c8468e0f7a0c610d21be91c1c0f278f3c37dcc0722677),
    (0x87c2ae569ad4d10d8b847cd6ebfb5cfb1bcb665d484240960baa7d1242b48b99,
     0x11f5e5984bd1a2cb4bd0826a4e79d460e7043c683fdfbd21f1cbb1220de36726),
    (0x0dd04b97e793d8ccd73e9beae328ca1e7d16189a400a3fb297554160b7fe7b6e,
     0x079b5499d818ea8426fc430db64b45e65cd47aaecf38814ca9c83c9b506db8cc),
    (0x9ad76ee876176c7b103eea6936f00a4aca24e5681c161c1aebb01102c1c24a3b,
     0x27b4a7bd41224f696311436e3249cfd794f898096604b3b097451fc2538e0ff7),
    (0x6aa7cb92efa8b1f33307c052cac992d0279b0254c2d3193703b5d21ae0ac2941,
     0x035a70c9030c63c692ac2d66d5d2ef9213380c37342d54225a1825800d37c7a5),
    (0xfc43c6cc839fb4ce6d5b221491e4bb141f419a71f9df7c06c16025dd4ce4f152,
     0xe1a9c29f51d50e058c54a971d01b16294b37d9d36218659849f06591925d6b2d),
    (0x53fba6ba5aebbd08e8fa84a78633bb9348b22d5cd0c8f93d5109b78571ba1861,
     0x2d50cd53fd0ebee4b9d5133bce6f1a05521c879668ca71587ff27df3e5eea7d8)],
  [
    (0x75910a01844c257ffb670dfbdc2b41677158c7e4c3ca2e87889f6d65533ef217,
     0x29f8be4c2b812f582ed92e8d7ca23d8522245250e45e2acef336bf07cf88577d),
    (0xd6aebf56a40eddf8484bc97dd5a1f52a39a8b2f1830f1a20fbb9b2452133ffd9,
     0x0045d5cf88647c168eaa8863f8de7dd1af4d36ec1586ff2732257acb76ccdac6),
    (0x8f32ef993d2d96598f5271a00ff872edbaf2647de68a25bcc51e414351facc61,
     0xc34049484d47afe30a2f78ad14eb3f16ed266c5d02b82fabca12488c7593cbd4),
    (0xa8c8bf5ba515344efca5c1568de2ecf9c2072b426a40e350a6f3d574c005979d,
     0x71cb9e27d3c41f78754cc28f2ca85418d4374a4dfdc5ec6b97aee555114df14a),
    (0x3ca7b94a80111696c4dde4648edd4398a489a5edebd2381509c1670209470496,
     0x18666e16610be69e0c1965deafa219436702702508dc5f1e3c385d682ad636a4),
    (0x02b2a3e27ee1a3838711a4b14d02e2ab9271aa62b9dc843b6792fd350369c8e1,
     0xeced0cf4c95bd877aca6d4c93b5601063d3de39cd652ab25b226e35f0e2b379b),
    (0x7aa3978711dc4480f52f5a70978b806e56f651843a61676245beb4ca2a604b3b,
     0x4ff6976d1bc9d3eb251384ee05211ffe7c6ee8a5237d99f9e13fac2a0e01fabc),
    (0x732caa2ffa0a2893f374493416923684f0843d9ea142c96c8910507903605c39,
     0xe2e942399e2b2e0739cd818ea6eda3acc32788cc437fbaa3b2e8c27061160170),
    (0x00919f4dbaf56abdeaf9f61bd431ebe898a452611dd3d209dde0492316e043a2,
     0xef419edabc627c7f64aa40613adf81ea5fc5279c58e0e309e42417db6d8774b1),
    (0xd1a7c25129f302694e428fa39d416d839d47284074fa29c43919759239ef620f,
     0x3cd2c01980d4c929fbb5f434a00ae61ff3ad6ee8110d967e46076e1cd746218f),
    (0x801334434cc599470d700c183982182e3f938926ca294614fa24d0537a4af00f,
     0x574c76209f9f0a30e8414348c7cca8b562bd59fc0ed6665cf0397106ec87c925),
    (0x4fa2087781ed57b30d9bd60521ca7954d42585cc906533256967d39b0260e52a,
     0xb2278163f553161428be2b24b1af848356b0040c84f6ef6460c1eff8e34a0bbe),
    (0x1c2d2857d8dc076aa73d74fd154ce47064be74eeca23f86a95be42e2bb8b6a07,
     0x274b4f018b4cc76cd88e52f9c34e896738df8e0b3de64818b1fa1c575a887868),
    (0xc86960bc2137a0724957eb80f4a089d8240207da4e3a723459c81ec2c11c208b,
     0x2aa3378980929d362d5d94557111c0ebb517fe74d3f2fa17de1154fd7f1a932c),
    (0xf6c3ed87eea7a285dd6d3ef756532acc0be4c7acfae292003f5c05b4f8b7559d,
     0x3ee501e92ab27f0b3d6bdbafc2dc836b531d9b14ecea6c83e463b0a8f46ec59b),
    (0x31682c10834c008b8e77b21471de57c4a7b3ef5ca52b3f638df275455922ac1c,
     0x9c092172184e5d3f31db0903c2a5089db6d1c08617b61c71c76824f04bd55d31)],
  [
    (0x6910b95b5fc3fa39ef18bb3f3c80dd3954259aaac2610bef5ace5035ea6c3997,
     0x6982812eae9fce6910e265acd872db61ced56c9fa7675665fce2f51043e09aee),
    (0x4e413c01ed1302e43dcb194783b8c4a44223272ca7b59d49b8fa3d931341ed7a,
     0xb73540e4e5aae47df6902fe625aa96caee86bf7533b3adfb6d999127e17e44ce),
    (0x61dde5df5990551239c5c190983e15d1ab2a34a44613521bcc50ef6c872b4a60,
     0x3bfd9fd4458589bd75b04ab978b0bdaa0750c8b6451d894be417f6219f2275f3),
    (0x5977faf2a3fcb4dfeaf983625bdda48b7b9bdc07276b2241aafcbfabaf95894c,
     0x7d37fa9ee64a9f1bc89c73ca22f24ec79fe87f71067591f0bed042ef052c4b5b),
    (0xe40e94e2fa359536de0b58a18d49a8c475e354af416b60cfbd78148045ee2f40,
     0x5a9e01bf48b13740b5abda99448c277b05cf466a8c762837bd4fa59f62accd76),
    (0x864e359d5dcf2706acef6c2ab1a4e37ce25f706190f2fb57b51e55e6f2606a82,
     0x2056538cef3758b5ed4898628ef16df72cab25003a96b23d479e6b187ce57316),
    (0xdc4a8269e1877af0e2801d97db2edf9fb533b8c907a26bdeef69a0c3d41d3bd3,
     0xb46833e39bbca2e6d36d36b779b3337484632f6bee4e93576c1c58513d590dbe),
    (0x3e4daa4cb1f115883d418c760c110f0539bacfe34e548e83cc7a64880a750c0f,
     0x6a444f65e6fc6b7c885b2434d722df9446f147bc920531272733e7b55ffc69ff),
    (0xf119334efbf6de47a6ccc747f41540c12e6cb02429811bb2008be4bb346ac9cb,
     0x05843cd82066b495459db722753dd1c77f4b578bf3d828834e6bffe9cc97fe6e),
    (0x3ae59bd67ce1f67fd1caf5488e40d844ded9566eaf6b0eab7cb88cd5dbf2af33,
     0x5197e39116e92db7f4f6e95de783d011cc7ebd2bbc4467c7acf4ad33dd82429e),
    (0x174f5124f36be034add8b6eebd051913291bf9a0f7a6878dd4f2031885e7a4af,
     0x31c4e3b807076421546166a11cfdb42ed8902eed8b37ec732ac3364527f60189),
    (0x003179eedf2f3980fd7181aa3ef26a64a1ee450589de549b7de29dfdbc6ebdfb,
     0x9f586983ff11f405e00125dc5eb85711eb842b14be86a5831bce4d30fd71bc78),
    (0xab487d695b29b172e581157f9fbe0e93c1b3077a7bc51c795b5a089eb833eccb,
     0xf8298f15681d46ed92010e6f5fc24afe338cd22cf6dd35dfc72551082222f24b),
    (0xd22a4d37f4e8e8c8b8ea2e142c251d75df7de0d5a54b19722ce7f723042389ed,
     0xf6ea9767d38eac70b97d946edac885c99fefdbfe1d1e201ee99958566c29c8bc),
    (0xc7445e4ecb2ed7f93f6651bf46306befcda6fc1eadac968f9aaca8e974e75a2e,
     0x2f9e101dea6814f2cfc622a9863fbc43684846c4daf3a679584a12d8d1571ac1),
    (0x3392f2ebd13a46984767dd956c68a172115a461db2f1d11c7a1a465ac3f16ea8,
     0xffc5ff432446852d76d8cf69a6d391988e537fdc22292b81c7a99ccde526cdc7)],
  [
    (0xd8d2c9ad69bc372485454a3c9f10903d513257b7b6ae5cb797b14f7ea90567e6,
     0xfffa707a56c3614e9bbfe43501918e42b540a21d77c8cbac38da93246b29cb44),
    (0xd67b085bbabc04d9e7076f8661c4c9100ec0bf9171567e7e56c2e05b1cb76219,
     0x953999179dc0d6950d44d367ecdd0bb77526c1eafbdc249a9fb904595e93a96a),
    (0xef2a6cb48325362d8baed83312f1aea2957ed188d1acfe972ccbc583a4c506ec,
     0xb52999a1e508b4a82da972a708686a5dc842025a0e6050c6130dde428e195c43),
    (0xa96e6d06c4f144e22555e355723fd0bf426d2cf64b7939a083f49167ceca9754,
     0x63439dd6ac302fa009d7e772b1b65e1515543815e508e4d54768a8dd87880e61),
    (0x2dbc9d0a7853fc0532749e8c4f3c6179877be203169005c8b11df8e1698e04cc,
     0x0fe29735be7f785ba9129ad8165e68e8e682ce9db4800e1b187d4f939454d937),
    (0xb043d05474f6b8dda9dac80de34972a7a34581111a7954dc31019ccf3a4434b4,
     0x093e67f470c015b60aa2c794cbea5ad400a754ceed5cc03f021c319e11137b1a),
    (0x746e79f2d8f54b0fdb82fe1aca71de1f272c4166cb3a4da420ac0351d598d710,
     0x513ba3f11f472da15c1cc36d0b98d87b75d03f46fd4b50406e7fc7364b573e9b),
    (0xebe5a55f35a66a5a2793fb9dcaff7be6b14f176c637abc8b859d3145983c38b5,
     0x69080646c4c935fd5b543b2226eb32577c595cd3fbdbf5607cec1dcd9f87dc59),
    (0x9b45d0b49fd5789402642216db6e2dd892ea4a2a9edb1943dca3b70678a6513b,
     0x95c5b4d7db68f59cbc2208b4ec77c2721477dd194c57595f114e70dbc69d11ae),
    (0xa3a1c6210f11336e791fef568d01d374952bd2afe3ea810cfe541fa47ea67c77,
     0x25059bc745e8747d003c6689bc69601bff7038af3225c3425ad0d5a9c7ec6d79),
    (0x19ef73296a4907d87ae7b9cc1f08fe458f76acb1b24892d99a75c80676cb2566,
     0x3baf76b4bb86325c0b1f482edcabe3c0f3cdea39817032d72db4ab715f228bf0),
    (0xea4bf352725b3c4375b6dd73758a6eef708de92a7b4a4e8a6aac688eadd70482,
     0xc4f0f839515dcf4b19ae23c5a9f3860ab1b1be95ef09297a10041f2c87912868),
    (0x9cbdfda7fa680fa0fd3152851b71e3da195c63dd89abff17c71e27bf8538a5c6,
     0x8c5bd833565b1b70663357e3f208dceaebe2764b3c2732719db876ca849d7eab),
    (0x482cc2c271db2edf2478b6bfdb25e0c308a3b8655c99a23275900d7c2fa4f126,
     0x0d3322182c269d0a3fa2f10ccc8c19588a93821b9a8005b437df7e645f321bb8),
    (0x120a4bb979ad7e8a72cd1fe0bfef9f00499fd6a9061f8811ba5514df3fd165e8,
     0xd2fa487a77f22089d42301ba9d17baf1cfd174f195a7a2f0f2ffd0955f4a5ac5),
    (0xe3043895bd35cea8dde922519a86afc757201c0088cdde69b93452381d531696,
     0xe0bf7977804ef8b5d4c60a57322ea38b8267dfa92535935e7608c1e18555970d)],
  [
    (0x68e7dd3d3dc49d583e719bbc58b3002db77d062ed968d4106233ea68c094dbb5,
     0x5c48a3b3c2f888f20cb0a2a77c99b6ab213117473c9e3c1b8d825740013a5e58),
    (0x6b63b80bac4fed54ddb595c763d4fc1e5eda799c39cbd686c7913e91991724f3,
     0x61f379589a86967a9628745f11a92ca5737708bad0f1c9646ea0fc697e5fb516),
    (0xb1d9c60ed20025150ac006fcaa80bacc1d0bd3e593d407235320fd610979e6b3,
     0x77f76da1191596c3441c011d3c20b54bf5bf446e80a9ce31610e7ed0af780b92),
    (0x81d5f2713129dab03d153394c327bd3178322fa4efd324ef9af39b2caa665072,
     0xb03bbfc4ea7f74e6f45a657a2d369d0faa40cdbc8536e717c72e0c42f48027f5),
    (0xed8eb16a030d43de4c58ec27726b0b89fa597e853daf41b97a04d5429b6a42ea,
     0x7c277a9ac64e82b71e6d918f9f6e2b22b7a770c1697cff8165e1e5e1ec9dcf57),
    (0x32c6f30c112b33d4f10230b98ba816756f1a5bb0e0de572946a8c4180d738ded,
     0x0709b3807829973a77c1bd3afa3b67766a281b47b459bf057559129dd8fffb62),
    (0xf043f5262b1c741f7e0c7e4d3a3787c8fdf5b7cb1e0210f00875e0c1da36cb47,
     0x5e30b285ddeaac39aecf7c3e0a6b797a0514df7338b45ba976df1b006d74d72d),
    (0xce8143ad7cb3ea870459453effe32afa38d69272ee1d41bf8c26b232a3326505,
     0x50bf0d009eca85bb459a46fe6736f8ed6cd2d23022286264932ec1fa7e6ab666),
    (0x2948f2295c8c14e2cfcf75d0d210acc1e9d87842448496ab15c78f7d605238a5,
     0x3482bc96965139cb0c4df3518778d30cd02d11e4a03be800e81fd76de8daf0cb),
    (0x50824eee76943c003f1cba4021a9a6a2300414a70f537a940b825852877a21ec,
     0x5322d64de4fb09dd6174416248f24dd7f953814893b4f3c0a0dbfcecf83cba5d),
    (0x2e7b9ed31a8e51a79082cad836e79b240ca898dfc85251da56b6cf278a448bbc,
     0x52090f87814bfdc19887a072f0071b1a4750e523cbf8689ddc7d318a43e1c802),
    (0xbbd6a7d7c602df7277d2188ba61e36c5a9bef2d0f371cb84574473843d9325f3,
     0x832b0b1da2e9c01d8bc625d6ae6e8298f49085ed6ed0b6a1ba3aa9028f61bc0b),
    (0x2998e4056addfcde1128f3b8ea87293a0e66736bef097efd5bebf2196196bc6e,
     0x94a486c1a56490c62e94aaccdc9fe81987a434e12418f05655cc31b85d16c961),
    (0x820cf3f8de0a741e4b93151dbea08efa800cc7939492dd2ba337c447f1f0ced1,
     0x319c8dbe29dea0c71ad7d97245f96ee3ef92196084dde6caff1982dc1c0f7d13),
    (0x467e6358d4230f5c04cc65b006661cfff6b0836a30f67b0d1ff2385bde259ec8,
     0x5c8aa88c87bb8de134d257421537479f7b984262f1920da6ce468c802dbed3d3),
    (0x66e673ccbee1e3468f66ec543b95d46675922d4d470eb624d3ea38717b82b99b,
     0x420fa3840bdb323b8c278bb6310a2ada3de9c1e6290e5cd36afe67c4b5f2b89a)],
  [
    (0x9a6b62d8a571df20e12d4b9324f68b49f888dfe867c241c9646f96796424c49b,
     0x7f96a7657f3dbd16d281b3e4d53aa51f666f96329511fae281b4b26d179483cb),
    (0x983fd558e6afb813e0844f9fb0d59aa1e9a998eb0bf944968553d37c051af62b,
     0x9f619163a6351782d7640ba95fd8623b732b22de6ea5ff2d9670c0ca65d69804),
    (0x121487097b240c215aa368aba73bbec069958465f366e401f167b4e0bdefdd4f,
     0xd67f59517ef5212b5f50a80e130c4361cb4d73cee1fe53d1378c323318969006),
    (0xb54660db136b4b0d56ac3fb20d8e27a3471b7e906bd68ae2332f81088cad38c0,
     0x495173a8af60acef4540b977ce6ac17c44dbffeaa37799ef123a1e11a6fd8de4),
    (0xb8066add22067231f7d9b45b44dd9afd11570dfbd1ac6031eb4437434573eab0,
     0x46506ae917020052bdcd0aadfab38b809e0e4899e0ace2a215f92ad8f8a3f0b4),
    (0xa426d748adb75f6eec655ed68788f582fe9e27d20207bb63429a69f78fca399d,
     0xaf1d0d56766d22473a3a8956deff48ba84fb8d27a531d42518695c02ca81c66d),
    (0x2baef6bfc70a4a9b809f7521f66f9f5f49261531590bc3e25a059565352c4b5c,
     0xbdb83c63f007d4162151659bd04cdc6911370233984b230ce7e6fa6509ed3561),
    (0xa13e2c37695dc6c8006f16ec83f1edcabcdd4863158308e89ebb284d391c2a82,
     0xa52b540be1765e024252face68651c44a8765500a6b48f982ab756f04a057a87),
    (0xe206a111095b177e238816ce15a26112e1a04f1ccd2f1c8fcb35a1a85ca37ff0,
     0x7c372f9ad31a3dfbbf16a37a47f1dbb8c6a3f56774752cfb3c10b6048a424149),
    (0x0fbb15859e987683ed57c128e8ffc9e9ff659cf50c662a67122d05b5c20b4d2a,
     0x342e696e3efebf30f03d747356a7b3074b98baba374be470add70df247319a2b),
    (0xc73a1c438c213034014db22d6174c7ae04713409a6940d3df84b48f7864ac537,
     0x92a8c2c8f08f0bf59fe13fcc91c3e83f724fc7576102783e18ac4ea5ffdd93ec),
    (0x6bb7732b31b5ef2b266d1db6863eca95ab018833d86931777f2e22fd8f67f6de,
     0xd2cb507a845b64297bd75de8456b48ad6fa1d6d25f90efd84fa927c6915f80ce),
    (0xa85143109305aeda10ae542d7d5b0a4452025c23a460e204a72cf82ae255d7ec,
     0x12c7b3347cf4eda2c2b3a36b66d950403f361826385365fe958315f5a14bbfe8),
    (0x4dc97320b35a3d852dbb908c6117fcbf4c93b169829a71e7a545b4d1e744119d,
     0xf07af445224d7e240c41ff50b3013af3452e1bce1b51bc1f94c04f856bf88105),
    (0x1dd8e85e86ed04db73bd2a6d98cfbb5f8a8246d7f345a763bdb9e57ca3d24f6a,
     0x6b7afbeefd30b64a7e98ba7faff548f57ef0547364407bc776f2da42c01f420b),
    (0x2f5e6961fd1b667f9241cf3a57c62c8b0d5cc16c1a6234994f922fc516a0d2bb,
     0xf648f9168d6f0f7b04911b37071fdb523d20b44d609561925c15c70bf5a01797)],
  [
    (0x13271e6c6ff632f7e08805bfe5bff5037d25e062e3c6fe8a027cc8b8fac61d9a,
     0x5ea60411b62c5173ee728bcba10a51788957c32d701ef42655dca6c0232f76a5),
    (0xae0341bcc0dff48cebd4fe1c78412a68181c0b16a91957709ad5462bb4d8bc50,
     0x62c9d27dda5b7b685407151ad04c24c2f11a6dea8a24a41bb6bc45cf7003e866),
    (0xbb6b6e1bebf56ad3df04e891c4a8fbe0867983288a826dce32865719a8afd30b,
     0xf2beaaf490794158018edb95be96c43ed76c3389be15baf00a695b11471f1ff0),
    (0x0f835f9cfb2a2abdf535af824a1675888009eb5b8f910c1b0a50b12e523b8bf6,
     0x029d4c6fdaa2d0caeb3f5fb066ac02b0c797df2a169d383ff59b29312afceb62),
    (0xcecf127601cc84038c33345cdc2ae9cb1e4ef88d770ba95f87a7ebd1e0a1b12a,
     0x368fc88ee017429ea3ef5a675c9661c2fd90d0ad35c33ba4687c012e1b39b80f),
    (0x180ff42e53b92b2e53e16ebe09d2f4dae6d4ce997472bde1b82226052b7ce542,
     0x55aebf8010a08b2818aff74f5c14a8a23803d6f9422c46c2c59bcc022c34a1c6),
    (0x0564c83f8c9f1939e6e6d91e9ae86ebcb80288bc5682e971b956970e2fdd23cc,
     0xe12d656b049642630b03cee5a6a158c3e893752b049c28e2551932a239560368),
    (0xf0b1d09303bfeaa93483bfdea85f4bdf0f2e400af2f142fe58af2010f5b343bc,
     0x00bb7742e5bf663647be92adb438f3a6e943e4c93dba10972ea01b95c7081603),
    (0x2ff7a5b43ae118abe073694ccacacb36d93006f8c2263c9e4ed714576be5f7de,
     0xbc615b6f81383d399cc5f271b198d76df156a39dc2aa6d523cce53f1cd871236),
    (0xb7f5e2fa5f62f5ecb2e460e27bd042ffa1ed9c07ecf7b4a2137a4fb486df2a61,
     0x93bc919ce53cdc9f67a45fb1f250a6e175ce0a7fba63eea77aa6ec6bcc2423b7),
    (0xe1e6e62658b28aec526e80ee27ac7e62a77797c114caa2c967930af231f63950,
     0x2864d0edca806e1f94ecaf18eece51cfaf7752e06d5f90be636178b0b3c9fef0),
    (0x054d652ad1bf412896760ff1ac598bdc2a6811b7012a4350ec2fccaaddce3345,
     0x6c91c8257bf033628c95928c1960100fad7f397133110fdf0a1151d492a21005),
    (0xe990b4e407d6ef31345ed9886417a48e26c3cc517386b77917785b7799eb6df0,
     0x3a4c3313a002b90ae327459ce2eb4206239ca6a559c96e9a0f456b7e2586abba),
    (0x55187a5a0bebedcdd93ededa904a673807b1f040911178da19e6125dec3f1dec,
     0x50c3db2b34a4976dfd317a69ca99f828f449099ef170b391f7d04722eb329d41),
    (0x5f232b5ee3dc85ac6789f69ca85217ee5a2459ca6cf7ae703806b69b92222f1f,
     0x7bd63ba48213224f10a0cb13aafcca23124b4e473197eb31660e3ec548e9e516),
    (0x69c15b35513b30ea061b2821c48c867d4e1debae65405868b674481b7bfe7178,
     0x4e07633318cdc6754b82bb35233d9f4de5e29f5d1220b1ff3b4a166636871088)],
  [
    (0x0ff71880142ceb81f85c01df13339a70e8cbbdd5f45fbdeb0d53f5c7a3e6fced,
     0x2f9526f103a9d5221cdbebd2f18bd26e5fb32891ba0bda6a4c4e8774bd70437a),
    (0x0edc4d24f058856cb9dcda366f9cae208b04d7257612efcd40ce305192c4d684,
     0x50b62c6d6df135a9d41b4487379bf26c3de81295dc09dfea64f2e6bf85427900),
    (0xac11118a15b8cb9e18b9098d4c13bd35c416b0f690e19fdfd4f8e3b4c72dfe67,
     0x34097747611365377ae3637e30177a0cbfe0602f89f356f4f598a318f0062841),
    (0xe4645d0bb52da9cc8c4ffdc6ed70f8ca5f5efd3b91042e4f0db2fb5ed005832a,
     0x815bfe3a104f49defd4aa0d2e398a08452c8f0bc4e1172059596f58bc9001d1f),
    (0xd0b35e6ae5e173ffbd00b154e4d4e604f72f8f99e8433aab97e5443f23885e5f,
     0x3c8b1a1e73dafe3b6bdd13973da838323e3c665b88761ec857b2a0489164722d),
    (0x386a67d73942310fb42e409eb0dfe8b8be600ab9521771b34497ace654317cac,
     0x83ebd5c8d071c6e14d60f5a193c4be32a7cff142985dc52425548d8d4431cc28),
    (0xcfd169fcfdb462fab3868d6179743fb39b3ad3965bec33e8ba3a80a7b1fd2b0b,
     0x47e6961d6f69a47404fb9e6cc6c3e1b255dc1cf1e42d3ff8d3b499d79ce0a6af),
    (0x2f6928ec690bf7fa8c3daa517b341b4fb38e754284d4054954eb3acce548b37b,
     0x3cbaf678e15c9985c04e67e74bb5faf901be1c5510adadcd0496b32386ce6c41),
    (0x03452936eec9b0e82f81ddf1e58fee24ba1aa47ae7dd30aa8cd1214550ca4247,
     0x5ac86d5b6e0bcccf9ea640ec109483619a2919af15c3d0e58bdc3b81243aea96),
    (0x6f1bcbbace9790ddb07b08d2c0218b64aed3e837c939719cf892d918c36cf440,
     0xb22fe40a67fd62c5f84941aa0dd5daefd89007918ac1f9eb4a84d6ed60919b8e),
    (0x3d57eb572379d72e5d050da437b9f454bda2fc8f8e28ca9c97e15ba2157f2db3,
     0x338f14b8ff3f4bb732bb76f6f632797401648ca2e11538cae9b5eba2fb5ee997),
    (0x8afcbcdd3ab8262d0ba5f5398751d8c29c00090d7dfae958524d226ad7ab9a2d,
     0x639efc03b06c817b9feace9320862935ef51263baebc943a57392729e99d043b),
    (0xd7b58f495062c1b5f39ef1ad78d75cd93f25a9de84a37a1e1fe054b366b4be7a,
     0xb6a8e2b1292f1c0a5234d31315e97fecf718ff29e8af51e76f74f9a9ff563436),
    (0x51fe178266d0d3928f03d64a28746c4d956ca322ba092cc8a7f53aa8327720c1,
     0xa7ab1de1620b21fd245dd62e0a104ccc60dccc5c6da2e3b4d19b34db3c832c80),
    (0xd686123cdb15d7445aa3c61442a9468bf7b75783b15ee71cb293ae0b3893d123,
     0xfb6a20e7704fa46bac21911077e5fad76fcd72c8a4e6a4598c616891a7ab4116),
    (0xf3b2575ff4d1cc5eda6211a1f7026eadcddb688932148379e839be7d341d81dc,
     0x59a60cc83c07d8fac5acb1ed41a50ebc83879a5e61d5b48340cfc8f6a7a73ae6)],
  [
    (0xb915ee221b58391dc70b01860172f685cf12cc01b3c1b3fb439530b665c7322d,
     0x80a1c1ed006500e77f46597be4d3d05087dec65917b8ffc49afdf03ba317db24),
    (0x22aabc59a6a456705e3295a64e9692850426c4005ea8b6403e22a7b397acf4ec,
     0x46908d03b69263682216a665104152ba9a6168bdfa3182edb929714c5f5942bc),
    (0x3db784b2f8df4ac45844f03f80f1a7114748d448fe81ae8d52cb8ac6c2babcc1,
     0x5c28fa08b03326f94700d0e73b5e5555e40f25b9f33cc7c0ad918f122df1fe36),
    (0x609d210fe964935e195c33e531ffe89e967747a8c72725c7a9f5d8745a1251fb,
     0x1084a333c8146fef2e9ee04c5693183caf9b5b960426469dcafd6ca82fe12227),
    (0xb5052f307583571be0b30d194facb9fafd4439a68bce226f56dab1c8321a518c,
     0x16d4bf5ad4bc0b52fc394f65531c92e6d02e417203fe624a1442641012afd476),
    (0xcf36cba6fd7fed1efefae513eff55e96117ce6345ec1df80ce06b88210395755,
     0x4e0dbb588b40e05eca51b64e86bbf9ffe6ec1bcfb3d37e127340eca9a40ebf88),
    (0xc39e40b823001e3ba8c6064ec30ebc2cbfa00f36866f3ede120ad0bf5f8b8a84,
     0x519b93b1e6f706cb8446a8f316857a19cd4420c704a562849614f7cde7b1cbab),
    (0x148ff65b1f832124345057f0ad2e39cf566eaff35056309096649933aed1d1f7,
     0xc86fa3028fbc87ad2a2676265361aa0d319bec84520c58b3042e89d4cf94cf0d),
    (0x7dea8bd0958962069f7d70505dfeff918be7ac6b3cabdb533805e5b80863b664,
     0x4dc253f80f96641dcc4fd5ae4aec15d224a4f0e9bc603ebf28005a3b410e3c4e),
    (0x533425facf818c87bb53c31c3a1ea37a3fd0d94c09cc3a71359d7b9c7ea2ee34,
     0xe657e7e79465f5eae557ba094a6425420ea020e430c164487cd199c3810156e0),
    (0x8a3fa8e2e2114231d97c913c511c33ffc726868bf896e9fdea723ad1fbc82439,
     0x709f208a7b1c4f717bf51faf2fea77d42c4cd884f8d098d32a6c0e5608445b3e),
    (0xcf31d816ef9ea505b99315bc846f7779b1a785a2fe4eac46fc83d2ab5c8b06d5,
     0xdb66d8a6650155a129547fe3181cb4c72f132b04b4016b332391fe6a15d7dc85),
    (0xf0437b94962c7a576e8c0b345a54eea0c31e042e91eaaad05b9e4843f45aac50,
     0x4df3f016ce348b00d5e19c4a3f510d38e1489378e3786432e4531ce8fe1d348b),
    (0x7bb6e6b02dec1eeb551fdda75b7a0399437575165255625d59cd0e8b593d070f,
     0xfcb4666c9cd33c8801abf3c578f324023df631df0cf41b79729bb662334c0922),
    (0xcbb5e1ecb80a92b6ebc7c10c52ab9f872a8e890d97379134b805b445735e843c,
     0x8dd90e06c52bd80c650115acb2418a74fccf504eae8cc7bdd6ada2d9dc2c4efe),
    (0xce231393b4b9a5ec65f24550cc1b743598ebe5930acd72d06b66d7e1adc1696f,
     0x1560a9c8939cf6951bbc75a06100c9c198dda095caff9b00234a22d4db067df9)],
  [
    (0xb64232b7ad0393a9a373c4a2e1a110329bc85a9bc90fbc7de4050f1cf1c367ca,
     0x77fbd8dd416543420baa94afe829348b1604f30194b78ab2f5577eb0167dad29),
    (0x8eb572d907ac520171d78d6d9952b49842fd07895488b01e31f14802fcf0a7fd,
     0xb76f6bda4a881a1178efc6c8f888aefcd2b63fd9ba017e66e0a2a44c4d194a88),
    (0xc9a1904a28c815ade5dc978f2fb061f55502468e703d00bda2f7932c68af43ee,
     0xfa17081e223f71782a37245f20108ef3159abc5f193d8cedd3af538d470c56a4),
    (0x8943b9b2712a0fbb9d64abfcbc8058d8c1d10df0e80206041fe2a9b2b4b4b67c,
     0x8b34a564e2c75dfb605fd4ca7bbc904085ab3aa24ce775ff90eed9143b3def04),
    (0x2d702cfbb32011150a085cd7d2eb5ee9fdbf33d777be32cd5c18acf88e2f7d90,
     0x9dd0fd8f157edb6b3041618e567333ac23a3ce3c1e01d617b6e0ebdb85c88ce8),
    (0xcbe6868cfc577caff1570359f2d6b19b41209ee4f073aa4eb2b2610798fa7aaa,
     0xe0a5ccc6d9461fe2b4a1b312f086c0cfa6c35faecfeee397186c4bdc32c04dd3),
    (0xcfd321046bb8bdc66c0c90478457522b74fb1eb1fb93561f516ff3a36fa6110c,
     0x1d56251a617242f03461baedadf4e8cd7c27fc3586a9b6372d6884a2cc80ad57),
    (0x83858b5bfe37b3d320fadd29d1b3b730eb7c7cca73306cd9b84011a9431dd80e,
     0x7990a63889b98636c66157a490fbc0511cca1fd31352d952bf4cd193b6251d5c),
    (0x76060c21426fa2e5c70130532d8be3169159a505ee018109892c81a321175ec1,
     0x8fe6604fd7c9b3fe3f6679b92770bd8e9725fc64ca01a671074d2dfc6b6f0f22),
    (0xbdc2ef526859b004d10bc6c34560988fd9fe7e4224890e60ce711154b6e00a84,
     0x117813355c85aa53e97966fbee714567893115e6119c47dcdcf0d868d5c890ee),
    (0x9786b71f22f135fec572f0014261e031c9df473d94a0679c71d530cc73204349,
     0xd7d782f2c589f4060dbec45bedf53d71e2fb48e905219c46ed6505fa6b64e56f),
    (0x0a83ce84a121edbe5a16ed6e88390493968e4b082886032b350fb66b73ed0966,
     0x95b44768651f62836cb8cda7f937dbf65a40a6d595ce67fb7c86fc10a3d9cda0),
    (0x4b96f57093c148ee71503261c423866c158c423b906d52a606513c8a446cd7f4,
     0x7e7d0f7867afc443de3981db724bf7f6611b597695ac4b8b5daf9cc7239a8523),
    (0x7bc878ab0c7da618bb96036f06942626340bf99f5e1b3a09984f101ed6fc3837,
     0x8d1b19af5ce68d7d1b9c2fb86cc7a67ac65bd5aea182fe9fb37416441c6fb035),
    (0xfc085117e7d54a993ddacbf894f878dd742c5a9478222ac03d1ab80c8ce59954,
     0x705d270cb10dc889988752397ea888fe1c7b59cb16f4ff7ffb0f1dfa21e38ec2),
    (0x66beb876a0f8ea287b1b80c854cfa0b5010ded8df7b39d00e5aa692a87dec0e1,
     0x82ae9891f499e7421a09eea953479fc6a63d0e65b08d394950d7f5313476cd0e)],
  [
    (0x919c667c7bf56af589ae4447cceac0bc582967e23adb3b34ab58b9105ca7d866,
     0xb187f1f7a967132f0b98f341463467f5ec697b9fddcaadbc9aec17b160f5dcd7),
    (0x1b6c2d4609e27620dee95d8e69445d52995f2714efb66e5aeb5ddcb6ec7fae9f,
     0x162c429ffba5cdf68c468ef91af4af63b03909f10958c1aa32621c318129d716),
    (0x242e43a7e84169bbdb03fa92c849cffb8de25b37b300ea6fe8cb5eef9c053df7,
     0xc66648e32b1f6390e6e72a50e90d89496925a77ff4445a8de4fa51f4dd6f958e),
    (0x87c8bdf415b65bb6b99774d357b4411f2da40f1fce98fdc46c3b96f31711ebec,
     0x54907c5d2b75a56b600f225bd812c594de95bb9b3c7471f3da3a89e3c2eef12d),
    (0x93057bbfa73e5a0edf49fcc7a77f00e0cadc5898231debb5699e4d2945c1dd53,
     0x89d9be5e7e273f4fe7a01db767677c68114734b3c614011a2f8b7ecd027a4cd1),
    (0x3f7d41e8a819233b0f8886f4071a3c1df47424d398bd91d1e0deee5931fba239,
     0x0ef6eea555a9654b942bb24963c9076286bb49af609a287f708623c2cf6eb998),
    (0x4028746abaa2c31dc526233020b44ac4cd53a2b01917526e4add4a2e649d4e57,
     0x7c3ac1b04854d442cce57f597b185681bf48f151ee5ad9095131839064291d4c),
    (0x0cadd1a7f9b46a4f0b4df1ae7f54438afa52fc69b55768cca80d1db6f79588c0,
     0xc9b5b7e02f6e0c989f047d55382e4e16488e4fa555eaae35b40ea6b31803dd6f),
    (0xec9dd0ee88fbc491eb7580697bcf64211d468e6560a8f351c19972d0b611c24b,
     0xa7b4f8ef5e9a06c4fd5e2321bcee766573dc6864dcddf94e5b59d2bf956c2e32),
    (0x823d24ba7b6c18e4c39c19cc66d2427cf1f03c2a037b925c03cc8f17cf41c6e8,
     0x7891e4e3256c932f0ebaff522c28092e684360f1f8941c2e32ef9013901f0b4f),
    (0x969041a032ae5035c5709850a1c175dd2e97c600e7de1391174e8f82d8d38a9b,
     0x3a8b342d064a85d9b2d58ee6099dfb67d6bba71bd7c2e8fecbfd533b76a2086b),
    (0xbe79d0461847092e985756180e9c26744681c4682c318a4df83cbf0502f40d9a,
     0xc5cee5b61773319962ce3821e3afbab66dd359e472a51db9af1e480a78bd01e0),
    (0xaff3974c8793beba87eb12393b6e99c4e4d8c0a04c29b133671ed8fc3b922bf8,
     0x02c29a21b661c96b6a77234fe37a0b95c5c3a29391007139037494052c18df9b),
    (0xbfbe8feff5c9730597ff6c5aabfeeb8fa352c3103bf79ab65a52fe2e34d74e31,
     0x91022c6738012ee89b24bc9ab9e5e2001f812f3ac4fca249d6081ce6a7904608),
    (0x14a96feaf50051d52e89b212d34aa60ab5551b5c4536e142184de7d7cc5f4394,
     0x39f803827b326d318b12e4672df7731dc522f02060b9677e4e21ef740d12bb0b),
    (0xdc047df217a7f85f3b77be468798e44fb3c4763940e72182c12738b67c4a658a,
     0x35e4fd59a5540dfea724cd0d87ca9b16cedca475e8e64d8d2439d4c55e59d92d)],
  [
    (0x3fc8a61408c8c7b3daea066ba5e5c2f2de81e949c51eba6d9894344f3a29467a,
     0xa1458e267badfde29fbb7accfbbc87d5bbc11cf53b75ce0a7adff88f06d0de9f),
    (0x072002d0d78fbf04eee426af79aa062b5f26fb8b7c17fd5d1cb43668e039c256,
     0xe943083373dbb152aaa525926d7e4181b401d8a10c82133d4c9ca237e84fb7e3),
    (0xa06b3b9e35bc726f9ba68b441d78d5f7eb0f9d7cb41328f52f5fad1e6ee7c983,
     0xd4fc56a3ad0bf1332c48a7abbba8f046552dd43ddfbec115a2550255593e1ff1),
    (0x276ddafe29c24dbca52fe8409878218503f7d28be095a8e7f92dda31be24319a,
     0x7e4d52a8851690362f81a8778438d2d5e43608897f1dbe4280cd54961d7a64eb),
    (0xdb7ba8911e0816b0bf07966c33c6171f9a442707224c735262f21cefba04b5d1,
     0x345aede926bd7086b5aa3883ad251bf92aacf7e0c0a78f67306fea59033745a9),
    (0xfbab8084fae3fd83e5a730b0abf1f248c7eaa762d788983e19e3d5b11d59715d,
     0x59f8090cb1b59fd39cf3c074397b1b10bdd4e083fa127f3d65e50d2153765b2f),
    (0x31e075c078baf59314aaf33a3d8e23df74353c5d488c36a6dc1de17d98119f10,
     0x2e9a6be12a7ec00570d0241388fe2e5999c5e3ac47b660c70f7ca03a46d1ca3c),
    (0x2bb2d0d1029fff327bb4447e7aa448828fa1eb40968554ed7b15fd9d615faa8f,
     0x218eaef0a87e24dcbcd5624e9a506c628eb879de22e7351b075e2a646caa6d2f),
    (0x34bd8fa3f8bcb72116868f21b56aac6f67c9b170081c1223ac449695241fbd6f,
     0xd02e91a96d1051cc6a12444ca54078db6c924766381a797306b6bd33b6691c76),
    (0x0c0571a13b480b8f9ac1df3f1ee96cf49ccfc5c5dab3f74737e5684744ddfa35,
     0xd57759b44413ed9a52a0f5dcb2415b3a35c036695dcdbb992fbeb3d54b3a7b3c),
    (0xbfa433a3d274c0c82d0873d76c29c8f6421883c67064e409077379c00b33d3f8,
     0x00bba55e19b226c2488fdb485db517ced663bf6535e2de0456dc778f23a5891e),
    (0xc0a94af929d393f511d5a334131a4a9b0857f77ef78a81dc1fe647d83d30a2c5,
     0x991c4d6872f83533bb4335b4bb614797ba9fe49388d2d7edbc3a5c0bdaa6ec1a),
    (0x2dbc80b900964bc4a41bb45bd34dddceb9d19ddcfb09121aedbbeee78a058fb6,
     0xb2d2f8816cad646b5fc501bc6528e22e1b9016db483d01c54ed9137d1d6cb654),
    (0xa1e48f03d8fe8493419a2b0de87d0db493d6eaa3d75db0b153258c28d2f01cb3,
     0xc7186ceea7fd3cf59f5e58e2fcf9b838f137571a35d53549f747faf6c508b23a),
    (0x6a6f063e0fecb5a560e75190edc7e904bad9efe39dcad1e25e76fb2f286bad39,
     0xabf5628a7c7e10a97e0d1e982c69dbfab56ccfbc6d20af6c5150ed85aed8acc3),
    (0x5f0606c33a61d41d5102979487a5b862e3a68b337ab92d0477b868cee978a1d3,
     0x10f5f9d3777f7e4417464d7dacdf73512f521c14c6fe3c2e2814be276f9326f1)],
  [
    (0x07d51e7e3acffffc1bae59c2b9e5836dda8c8af0f4ab95f4b06b1244c5f95cd8,
     0x61a1b8842aa7a71143324577a49fead43bc1923f8528c3e001e15e6ac2ccbcda),
    (0x8589fb9206d54831c0493334d5e7b5a4f4600572a9e54fab4fe7ee31b0e63d34,
     0xebb0696d02541c4fcc904507100446520879094ae25649e5aa70f5cc6583553a),
    (0x299cfe2ede77e01bac803a511d9781691758fada2970764a172a5247d95ea168,
     0xc2e22a80d64b9f957ae0af9f7175b56a2e26e1d120014495652a1e17b0a98927),
    (0x35aaf66876cee0a7aba445d24eaba6addcde2f3c734b2284758c1a3ea2dee7a6,
     0x6b89de9fea043f7abeb183ce40afecc3e74083ad91103e847e0b04a9e5aa049a),
    (0xe1cc2366771a9c34b49cc83f1312c2f4403cce6aa23df8e7afbfb1eda4f7e665,
     0x1821de7705f9be097f8ed988583a0f36acd15e0dec3befe17ab6a6c0db92faac),
    (0xe40e7bf89b122520fec93ce9524ec0677614c847b9917970b99f0e0399375235,
     0x43489b6c8c57c1f8c96e9429dc9dd2266f03847a3b04914cb5670631ee4c4774),
    (0x9e4951723c924f827d10986723644810ca4c3dfba442809a7b9722a5c5f26464,
     0xac40830af4a5f4464e01884d52a2cbb5750eac4f68de6b7aef4a6968a2c5bc14),
    (0x5be008438bd7dddaf45b5ea997fcf9139145076093cf2f340e299d23fe67ba66,
     0x367e7cf2801fd997ad684dbfb69ec1a0bf7ccdc35de91ef7358c3e05d53ff04d),
    (0x68c65d2240e1ca76b1466fa85fbd3c9b2d813d6cbe8e98108c54f1076103adf8,
     0xe7d7248e885badeb3602209b122ca1415b34c3eed1a864b2b81baa40255f9164),
    (0x43d241c506e1f3afbe570779331a007689ff6fa990e2615346ffd227cc2338fb,
     0x170471a2d36163c4c9bf16804fbddf7d6a06e984a0ae30eafdcdb97dde9b62a3),
    (0x82e4e54ab7b1c78bde2625d4fbb5ca72cb9f5f112f753a85fd23e207a6469d43,
     0x31644719d848a974b68f719f30cfd965fcd44051125b817a2cd0ca5378b9e814),
    (0xf9f3c555337fea971c48271977e0eabefa2c6e2b57b83180ff5ba8ae3113655e,
     0x16b2389149428940ee640adef62e5aa8e1de0bc218f710e3340f7022a42581cb),
    (0x99593144b6b3e4aab4f89406dc11ffc3e42b8cb83764f6355045738f25f653f5,
     0x5869f6e3c00c6c626299e52177f67a492c9cf4c155ffc48b81c849f3c9740052),
    (0xa987f832e5e4c7e3ea034b34afac6d84c71d665c56b66bb8361619e455950cc3,
     0xaa6c81efe88aa84e7e50b97638167e1056e5d017e26d6c23a07427727a79a6a7),
    (0x3d7f7df674f7f142f3c5ef8105f3f8d4446e276cdea51395b84186f75fe01576,
     0x50b1de346eec21aeeb7e620d3d29206087efa4247c414ef67c69b565f9ef1656),
    (0x79356a79658624481af3bf39badd82a727de46089f1d9f2e0ca1f3b7b0dc8595,
     0x93b0bfe54e5b6368b53eee42844d40fc1a8b0f89139a42f9c0602345f5f9a052)],
  [
    (0x89d20f95925c728f7774bfa64ead6dc5e8c515fb67e223ce0f893a5dc8de610b,
     0x0842e3dac077282d1b2820974c304d4aa2eedb9493f2a7d77a1e0966098583ce),
    (0x8595c4b3734614ff74c86cd38063aa2b9c17c7dfaca3eeaca1010e9d74cd06ff,
     0xddb27ce35cd444447886078adf8ce9f5d9bed213ca0c3be5a3de00ca990f62cc),
    (0xed03f717a439dee65bad4706519a5f1240d12548b54b07455a3097befc15aa1e,
     0x7f68ea1c437293102cad75190f3adcaff725083dcffe71d20794bb6c4a02c499),
    (0x1d112926f821f047ee8273abb728ae3dcf17dcc5359d638e9c7c581d26ee8382,
     0x6b8bdb9491ce7e3f2c2580227ea435ab687fa761fde0dfb91149847750491a74),
    (0x273eb5de47d834c64640032d94d767543b61b0f1a82a57289c806d8af7f91d0f,
     0x82413c24ad3a1a989fba6b32715071b3b7ce66bfde4017772988abf77b4e4d53),
    (0x55fe8712f6d2531dfd05ff64b737df2f8d725f57dd02753b75537b7e3cc8ac85,
     0x8242d3ad9cb4b2324f82ac35cf86699b69a02a897cd9372457ce04a96ab6b01c),
    (0xef921d701d378e46fa5538ba3a6c67e5323b7dd8cb28fea169c435269be47be0,
     0xa6c2920ff0eeff9ca990eb0afef0ff393f6f914e98940a67f92961fc3c4b880e),
    (0x0bc95725a31a7e75796525c389e490d96ce141e74e057f78b23a03a553fb2b56,
     0xa7326ca6bee6b67031cd6bf7e8ebeba9716e3a3c408b0bd61ec567911220fd06),
    (0xee959ff6c458efa20454879c316865b48fd3bd2837d1a6b170b63d32343bf1a9,
     0x54498bbc7745e6f6092626802f8843c8737db0e2164e4b2e0461dcf89706dc3f),
    (0xe1a4c617af16823d4af3792d18577a7fc50343fdafe652c35341352b5acf6e10,
     0x31219614981110552a792f33706bb20b306399ed9b7bc47f9b26d0cd33425d0a),
    (0xdd2d5a2f933260ce4df53772fc5d48a494dfed272a4f66304c1f428cd5f30851,
     0x794c486a14de320e30e93cb8243057c94ba6b20dbd12533a574115bdd44cc7a5),
    (0x7f0076f4136f75460b35bf6aaa89e491ee4adbd7001a349d6095355699f241d7,
     0x1550518ba3be4a5dcdba941f8761c9716eb2d2cd62a7a28bd19a18ba9264da3d),
    (0x12ef02901fffddbd6e4c8c73e69802f7ce87eacb1dd212a4c232d97302f1cd1e,
     0x3bf16159f2992aae809fb9d47e8f9d05d0b540243cb92cbb941ec74e1bcea6e2),
    (0xa2f26699223f63963558352defb68d78d75c9ce6e75b7a93b2497007eafbb1e1,
     0xebe4b0864e1fa98d8ea47de782cb113f62545779e72d3ec2eb911ecfe469b17a),
    (0x565448146d88f01fecc65651b82fb863898f8e7b977b5167bdb8e675b055cb40,
     0x1d3837fbb6ad4664651d14db3f3bd37ccfb6836f1a22fcdab0928e95263a75a9),
    (0x7a527e6b1d3a700748ae0bf092763f9e1f36e29d23ba815020d3c982cf7d62d2,
     0x8802786e1113e862f98db37d167d726e1f1a520fdc158be5b4a89097581a85e3)],
  [
    (0x56f0af001b5a3babd029704506e2099803f163ca4a10bb5befb2149e36f09ab0,
     0xedc4a79a9c228f5532e6c84a7eceb4bd7332a66fbe3d913f7af4cfec70880e0d),
    (0x9dce37822e73f1df5b7e63f2add7f363a6a9635725bbabd2c37c7dd0c55c4496,
     0xa5e2f1f88615eecff2759c32f6e515ade44898235ba0163ce1e5a16ab2b91f71),
    (0x6392b0b128da52b74d00b10b0e10d9a903d358b8c8b7441074519be7abded551,
     0xf6fc5d509e4636ca042e421d182cf932c305b0aea8f7f96c6744a2980b75c904),
    (0x48f862ebc04eda1d07099bf8df8022ab6c50621b9b6cb27b795847c9d64cc78c,
     0x66d3b2c645460515e2257f54b429b4fc19a80e0f5c9a9450d12732ede1603c16),
    (0xf06fa36f804cf284f747f3a241190aeb73f237b4253bda4e6ca4f87e822e37be,
     0x7fa0c3543e2d20a84b0724257ba556f35d624b6440b80ec60a6bbb6efc621c12),
    (0xf3d69f736bdb97bd84156027a6d38209a929c65294531bd4e921fa31e3229d41,
     0x99ce6bfdfdc132a8cb59583b0e511cd868a34c2e03d51be38906d19a16833631),
    (0x1567bcf96ab855de12a801f8f1a9078d658bbc1a34a38b083facdaaaffcdb463,
     0xbc08728d2198e8a2bb86e9c87d23807ccf0353e58659e68be08498e03572359b),
    (0x911cac128502effbbcd86e47a6abd3af203900a7bc0bc1f88de2b7bc453cadd6,
     0xfb87d4494cf751ef633f078f659798850e9f769229e0017e2d550242ec965469),
    (0x6cc69f236cad6fd2c8db638625b6e83f364672034bff3cfde1790e4bfc25419a,
     0x4b9eea322a0b949a7d445368465dc97ce43d79b6297f73340219e45a6bc68bb9),
    (0x275c28e4cf538875d4b85c41c49f19a8eaafac782f4461ea1b96c6ba6102d021,
     0x372a4f8c56f372165b8b4bcd7b36cd246991adb50605618b35451a9ddd2e54e0),
    (0xf9ee1edaaaec8243f4e14d94f0536e576f083da0dc4c9ff0c890bd73a6a5da60,
     0xcaaf21dd7c2712029a0b9a99e3fff040a5db82710b041e26571241ec8bdcf8e7),
    (0xf759b7ff28200eb869202c3f0d7a2198e77e7c4f0a377ac7b4e2b2e14f0dd2e8,
     0x5aa7ff8c23fca3f4b1b52ace515138b6eb84c52453d5cf99c87526eddcfe314e),
    (0x3baaaaa3f30fe619dbd55c9257aad2de960022dacdd58b16ff0b13c3b9791a26,
     0xb3bb68bef27817b091381e76035c18d4506416c046325e2a9a4b23460d881efd),
    (0x9fd6b0c48335f46371e25cc38419a2c87c64a586c126894315bfb8bf5116f937,
     0x292d51302267254457d57b39ae66bee06f6fba60298c21fa4bf0ba3ce8ee0e0e),
    (0x048c919c2de03e978a9158023474a89c012f59b902839986f451105dbab093b3,
     0x8eaf5179a1057ffd89bd9042e1b7994b791ed89a034970a5c476a2b591071cd5),
    (0x6da8e4f1424f33fe00d08bab2c01148d87a8f1d8727e09a66066e2a2d551ee10,
     0x80c0d9af81d80ac4dccf97d8d062ecc0ff5020103bf5cb19466d17f0cf9a4e71)],
  [
    (0xa0903c4c1db68007278ddd22659722ace635e186aca7b16698857ceb1bf4581c,
     0x97197ca3d29f43fe329c4b09e040319031b49c14b96abda2366e458948f21402),
    (0xfadd5f68c546a97df23e330368295a9cf0d8edc7bc8acf1a03e2de1cf3480d4a,
     0xa5a454126619141a16fcd52821dd43f4bddd49d5671bdae2895597ad96f8acb1),
    (0xa8365f2df35e9618ff127f54eaa2c1b17bf321c04dd82a3bfa32c79f439f29cf,
     0x16c1f898b27458e3b69f44e8215afed3395ce2c159228c4a852d29024d0ef8dd),
    (0x83c0440f5432b57a9dc756a8481732f4e6425195075a1a788ce9b6bfc360e25a,
     0x697b3d27c568ea39ded14b0edb052be72205910ed135e051c670b3f1d720281f),
    (0x1723725d902c12076057a3feac3d55acc208c47a2fac4bcfdef29005dc453233,
     0x9d48e72a310c2d97113e542b073058384913ccdbbb3c63bb9c31c62733eb0fec),
    (0xa28e0a2b359f16b05e68022e296d37c534ceafe3d7b2921c54424ec4d9bbeb3d,
     0x910f56427892e8e755cff45c31736dc46939a8f9baf3e1fffdd82dd9bc3f9d73),
    (0x7d809bb429d177037cede28167853b02984612f773549093de09b349dfe39260,
     0x0c7cf0be3331e2c73e69545720ad9561c59ff9ba93f02b80450b6bfb2756c4f0),
    (0x071279a44f3644521cbee4fd474da44928c2e0ab17f6515c2e599b9afb3ff9ed,
     0x6e9fccc6a27ee34b190385f667597c0b3ee394e85fda51c497abff6601fbe855),
    (0xd9cbac1cfd4ca1e87a4fc55eb294b197894637c206aa0be4ced2d419362fb228,
     0x35db7525c5ce98a7e835382176033b78ca4c556580dfaa49068b74800ccdb6ce),
    (0xf08bb13b985543be5647c6c3d4db260c987d2031ffadeb588cf5927274fd1997,
     0xf91199d8c1c5a3008a97b3bb7ddd1db239e17dde68334cc7566eeb1056fad695),
    (0x50083ea58f607cb68c2281b7cf57d48535bd25234f3751f0402fa437bdc47fe4,
     0xe12df251da23dda7d9040c22391fb48a1164e47e91bb06a26f41e480df6d730d),
    (0x4f57841ee1ed3b14cf89a7f393d2f064f17256bd428e240c0b89de9314092ebb,
     0x3333e4ef73ab4270c8e5424fbdd7eed5856aae7203f1c3d04ee14405e708d855),
    (0x2b1e4e6715f04032a0d2e24fed7beade4a70faf32adaaba8f9cf2b5148f835b1,
     0xff13304623482e6014a787257fd4a188b817b0863a54b0b4eadbc0b91fb3ceee),
    (0x3543376a3b8f3465996c2e6b798f9cb97251b2c2c664b2bc312012ec4efe42dc,
     0x7e673186206d473f53744e9d7b02d855e0893a840cb91a03337ae8416fbfb6a9),
    (0x64b4a2fc52cda6beb59cd09b0b8ccc899cf1e82e399378bc9509996f3ef143db,
     0x02fbe1bd1f9cc4453d48a85eb610e49bfec4e87d2507cb37d3bda8b31bcd55df),
    (0x17512e2e9f5694bb5e89a3e734931b4cc11a3aea782972053bc77adedda492f8,
     0xccf109a333b379c39c4f9d16f511145d232ea4ba08c7ff3e5dc349f3177bf8b6)],
  [
    (0x0b0da855bc6390a9721ebbd7c259cdb87bedfb4d488e0cfd60e2857080eb24a9,
     0x9939b48bb0dd3ab733833eabb162fc9ecdbf1fbc6c32e8462b4d04dbde314c70),
    (0xec8ac9b30684e126ace26309a20792dbb905f2c8780ab95496892c1f711b0eb9,
     0x4e5686226ad1f3945626fccf1a8e3b3f60121fc19fe3fb24486ad8b6b40a2447),
    (0x2b33f804d6bec9484ac69a8f5a9a77740b0c59e9066800bb5cfbbb22236f4a98,
     0x24d80f0de1ce284ea47a249f155c31cc68956d0f4e599c73b372929532e6c466),
    (0x62b23a1001be58492bb3a13d88f7e4338469c4d0247743d25a4b46c64a8a3d62,
     0x4e65e5e61c4c3638643fce6117afb01c454e7fea7d183f3ee83596b4a63d1a4c),
    (0x48bb92b3d0c3ded672606cebdf690355faf6d2cf74317655b7e830e3dc09508b,
     0x91268650ed921878c2c30a5996401d69f6cd7ac9d5d5f01f65b754845c7cf892),
    (0x03840fe883e3afead856073968421d771b71cb6672c49b66e5db77176add8545,
     0x5174cced4ce355f4c88ac87be8ca160cae243fb9307f6726b391dad51ec69977),
    (0x1030f0a66bed1c77c0c22fcf0505aa6f786221509045447d752067f8ff81578e,
     0x0a817bd306e81fd55c070e728e677e982d7989c7e6debe8531f29f151f0bd739),
    (0x73c2f434de6af11b2f69d39eaf7eded533131d55497ea61cc1e17eb6cbc613e5,
     0x76451f578b746666814e091f3e6e71cf5f06787cb833c5c24ca52493a4a375fa),
    (0xe580f07c3bc3de5394581041176bacfbfd286f30759a9c6b01c7e082e1539388,
     0xe18789a2cd9c298ddc6c2e4edb083011d75c3bb840bb9d4fdcdb6f75884d772f),
    (0xf00b6c748002fef5807e3ffb4486dd6bab0f6c396f24503c5ee6ab8495fe1347,
     0x24f3ad7834733f1686d311af3d8419eb85e5a06cbed89e2648bff9a6a7862999),
    (0x042c4a1207515be51d230c2b9bd80eef0c651bcc86c4473a5e20551311820d44,
     0x174618edf2bc6d05184f04f01638699de8f605782369827a42517ca0bfe9e284),
    (0x63d92b26b65bb746f2d0efa66ed16e7a3e732c3d1ff052c75e3e03fc6c68d687,
     0xbe2c06169d8932d06c1676a7736c8785a71b4a9ef8c081b8ffcd82badd44867c),
    (0x06fb89ef6c257d38e267d9f317eec30a960bc1dc8ce5e5357bfa1a4b9eca1c9f,
     0x05dcbff356d0aa94ad28ab1fb85ba59669b794cb26eaab582328999ad364a26d),
    (0x63b5fb7574bc7fde6ff50e05cd35ae69708817a706eadb7a53376d282bcffbc4,
     0xa5f5e93ce0474138de8d788245e81c5cb4d8bfd4f583ca1871c9e953e7fe08c4),
    (0x64c2bae32fd5a302be1164023ebbba308eb56333e864d7a7426c160f293c9f31,
     0xdaa32bf87e1234c65aba20e746075a9c52d8a88066fd4b14800601e1265aff7b),
    (0x4274dcf170e10ba151981c3403b8dce1edca8787b9fcddc680f9bdef694db7e0,
     0x2be2b2ab87fbd7f5c4491e8c050c6f58d25b1670ebdb1866f72743b86def6d1a)],
  [
    (0x7da4a795c132e92d702f9a91bd392a51bcc33f8db7c4e7603e0e5c9dd111f8ec,
     0xe58ffec1e4fe40b8ea3a5082694e9e7854febac802e322511a0b0ae30bb1151b),
    (0xa66adbf6150a5911c4074fa75410ba519f94391fc0d0d915fbb8349d29c4120b,
     0xe8234498c6b4997a99da0f53e820219ce0f27560b9e1ccfcc164543c34bfca38),
    (0x5b6304a6f79a44c59f727d735ce71ef656e2e847c5c4d5937b23c513516e19e4,
     0xf935381aba1d0698e054b8545b7fc19f1adea470fe742f836638a7363ab7e433),
    (0x6cb10d56bea855090553a0c26f4d9cb965035ef6b2513982b5504f9d918e4936,
     0x27c7032b730d463b3d7e637c8502a96b16a4d3dd672b726848d957b7a242da11),
    (0x7fa003d0e784bd7d510b404d736fbf48e7d09e89247d441d55366b7d5846426f,
     0x5d40da8dcddbe0f82c65957b2e83a76a49e0e0a135cb98db25f7614f17fd9596),
    (0xd89bc8439044695f8e740e7c84ad7612035564792874021737f68bb4a595939d,
     0x612d8643161fbe7c06d2e6aaf88a888e562563bb9fc0b074f7f3da5d85a9184d),
    (0x4d03d7d2e4819a3589bc90460b431163bde3ef77cb0869ea9fb3bba354530bb2,
     0xb280da9f12bd484091dd88e000ffedd9216db3079c88a68633ae4f9e43b6a782),
    (0x548234a4011215dd52b8c6e6bf5d15ffa7001f6c8e08ad53458f86913e538cd7,
     0x8cbd665c30a0672a55a3aca448607f8bb0ffeeb64a904190ff5a9d2d3d5b4045),
    (0x17fbf56c274676ac2965a554ac8ab0fceb0f6c7dd1e4fca5a37f3573f37f5937,
     0xdae327a57d76a7d1517a14b385d53bef41fc8f88102247662e2f6bd9acf7d720),
    (0xe44990c44b18be1ba8da81e311a353309a7f67d76361079e515d5c891f5f82dc,
     0x6830f09a16adfe83be82b0999394b8d3ece8aba78dac9261c7d5ed95af103e59),
    (0x74b043a7a8ae37addf0614c15fda0fca5bafdd82c82e7f1743c41ac194d7d9b1,
     0x5143bdc22c1953c24a5883fe67e242b115d5437e9c450f2e3ba6afa19e71734c),
    (0x53505bb81d9a9ee6b1298d36b95c081b642465951b176d99a2a9ce7c6b53f5f9,
     0xdfebced93cb0bc8e9f1694bbe7eb4a6ad07e16c98afad4533f6f9e61f2ba70b0),
    (0x4602500c5dd997bf4ebebfc9c2e127a99f7a1b8ca5b61272c676d7f2b1f3390b,
     0x9289eb1f4653cbc0ab693d4bfee5e38b058eb37c020f09c17f09771c4711230f),
    (0xbf11c4d6ac6a820e42e69d1e3f69712ae4d4d7910e44eb82a44d2b391770f5a7,
     0x6a61e28aee25ac545d72bd165450e878d6b4e81c449d941cb5e7f3e542c4224c),
    (0xac2057825990f6dfa8b64eeb9b872042b5423df226e84d0b54da9dc7ab952578,
     0xff807ef8d6d9a27a29bc922e9436b3f11a79c3e4aab273af4ff696eb21f4c77a),
    (0xbd41f01678614555915fd5c5caddb0a921e46f65fea990cac7f3a8f833f6746c,
     0x9d59e956e899a39af3dd20fe5a969b7f8055943614dbc204346f4434426ffb58)],
  [
    (0xc97ba6412203f18af8e3f715a2ac82a5dece47cbf05af2353c2f0ba9b733aa5f,
     0x87fab43a959ef494fac28daff3f2814656ea2c0546af512dc3af550409c11060),
    (0x3b433b597fc4d8609d67225fbee6bdb01ae80f8e6d7fbd6509891641d4c5105f,
     0x702fefd7ae362f50db785157665c32ecf7b59252e3e9862f44e66db693e85638),
    (0xf489527391f93becfbbbb9cf5e916bdabf04a19cd388acbffe756a5c97290293,
     0x54f5d4763fdcc93fbd5121750419d8fcc7bc949bfde0c370dee07ec32a5923d7),
    (0xae89f3d28fdb98e6a070b633363798a4d48fb56b46d7c35d3754475d0fefb0c3,
     0xb3083bafcac72aee9bf7d47444d5a0218981752167abd27d970b89c86363d14c),
    (0xf77e847f7d974064a700741c66120c763b8b7d755edb02a40acda2ffcc5e62e9,
     0x724e4717517cb0cbcae83028d32f9043de68b1f346bf35a30d310678a5e3d464),
    (0x7047f648aaea57ca3fe6419ca0047bdc638e9388546a4fa5389741debe949a44,
     0x07d3336df42577bfe807eebcc72afddcda8e0b28576bdba254e48a9041fbab17),
    (0xc277984cd95378ecad4f6f2a6381af0bda33776536610c03fae8563b4f3011db,
     0xe8ef552fec43036138d07ad4eae3caf370a18bb97a4bf3f45ab0a10c5751d2b2),
    (0x61d587d421d324f65a96a5d5dd38706391c19ac38fdce86762a8c244bfe20925,
     0xfa11fe124621efbe10f8441e05bab43e2384800853778b65e87673a2a37173ea),
    (0x2419ac9690ad7b878525a4ad5be60bbddac74c08c8afe546edd0389a8391d54b,
     0x94db43cb9d29ca5bcb0a259d8fd48035e86ecf367239768d078a3a0277eee51b),
    (0x3b0b43faa521d5c3c27608e2915f48ef23f27d81bf34a976047b772e81685d7b,
     0x00b732a6bbadd3d187b14898583b526b7f5729b41d4db8377613fb2663ca7284),
    (0xad1cb481a4bfdf0f58cef963c1fbb232254db3d31c8dae9d4fffa25b90f8550a,
     0xf3185722b69e45c6eadb3a87f051e67e58622664010114f184d26ea1958773c2),
    (0x8b01ea6ad005c8d6f78d3481471e85ad436b50b6383d9de48e02f4262048e396,
     0xd54b5268b541dff47a42e50183d3a1d246cdf1a94e3ba2aed3c7afee97015c07),
    (0xe2815a7fd36648d89af3442336151c7bf24977eed0335a96e120c4f948a48e22,
     0x12dd1bb638e1c5d978424c0bff3ff24a783a84cf817515e8b4d2deba66e0a6b2),
    (0xaf1bc8458b2d777c26a46a033b0b6d614387f816126e36243f24cf304e23e9bc,
     0x658493c75254562f4b96c44b287b4bc70e1346d44261bbb625c401ba527de79c),
    (0x356b14ad748cb88da72e86506f8fa4d98be980c1bcc7c7fbfcb0e9d8fdd41d98,
     0x6a83a5c623100c05bc75367c62f391a9c84a620d78bb0e35fd9fccefea6178f2),
    (0x5617ff6b6278a05d9b691bbebcfb485317ebfed1f52ca53f23f949feb8a24a20,
     0xb967ce0eee27c0114206482f695d67dffc64242e1784156a241b34c5e3c99ebd)],
  [
    (0x6e205c14d619428c3ccbba0f93a29ca7b4712eb0c1989a2eb4480f0441c23fa3,
     0x0514d89c9c97251707a759acf64e03500432691d45ac8b4e90db7957b3641686),
    (0x53bc377014922b11f23ab6b725693459ba4a81536c7bebdfe3b22c6bc4fe3c39,
     0x8c2731bb7ce1c2e752a2954cce0fc507aa02235520b9f2a34645c8ab5afc60db),
    (0x1c5def0469c5874b1a915f3c223e042ea77a0cbca6aa793b5066efb6d9790ed6,
     0x87052acb46e580630f7c7c760460f3b155cf85d2fcd8557a0e83007873b6c1da),
    (0x844ed7363518152da24986631b82a0e226882c137b8a9d066a7091c2e48fb889,
     0x56a413e90787d78b8b256ebc6119e34da04edaca04afefdc282f476fd86e27c7),
    (0x257ee5c7f33eccbbcc1bf7cf62079ae9632cbd8df61d314816eab6a20d645fd6,
     0x0641f6db359a1b167b5a864e05a0a1d1aa084e8872c77aa0bf6b34a81680ac73),
    (0xdf008f5445d7eb7e2a37ccb40927706a0d54a5d5df4b441cf01d095dc8385050,
     0x191f913b88342a09ef345e4835e6fa0257a65b58641bd6ca74eb34f35bf716c7),
    (0x215e0371899264988fa6ab3cded9749324833d88cb97a1cc1554d46da670ff1d,
     0x8b0549875648b83c3c6087a323e93cb958a8caf543b5e1ec549bd592e56d74ff),
    (0x624f4d690b547e2de0b0c81e99bfc8a2e41781c4dea16ff582ee061d5a74be50,
     0xf01059ad5ae18798482960c4a6c935392573dbb6409b1e8e3a83545dbdcc9ae4),
    (0x121f41ab9b1cf19f99aeb52a4c9589ea7c0018b2fad69d08c431a238013ff83b,
     0x5acc09b34c0c06fd12b954081f15aa318deb3aeb7be8fbdc0cfbbcbaef0f5958),
    (0x0e8225c52a0eeb2f9a402804f5e81d0fdecee1f6930f124b775cbfa86d518ffb,
     0xd9917c3ba010b2aab2bf2e20107a70d19540428ffb505454884a5d39fee9e867),
    (0x8c22f9631dc7c5ddc440cdbecb84ca7433777cc613ef927aa98f42fa3d843d53,
     0x1abc895e4d6bf4c4286d4e2486f59b7e7e0b43fcc814364f4bc82b70c8d94708),
    (0xdbeab27b8c04602949a3aa836f9921af4f18c0d3b8db6c0138151e274d559d96,
     0x5bb192b7f0a53945338ede2b0e4baf5d39c479e51614b091242b9eaa7040bf3b),
    (0xb9390e30dad6580cb5b1a26dc2c64918685c5fd9ade23f68896d572337e440d7,
     0x34acdf2a1ca0928d37b942a18f065aa6b90c5053deb04f6e87911c4e7dee5b9b),
    (0x64ca7047b77da248be2be8e9b2ed92f71d4b6d6fd2f3857e733b64d39de40ca3,
     0x38684e08439500978a296b94ff958c279c1451750fc698a4c65dae9b8da99315),
    (0x9607b0a0caff3e2a9b4a745e627fe7b1968ce4abde7d18ef7872e34b3390ff23,
     0xb2432ef0f7cb65f2b5b9058571ed48096ac62204c0fa8d7a1b05818eeb40e3a5),
    (0x7c136735abaffbee55cb4858ecb66bcde8244437984e6ee1715c9f973112795f,
     0x27e6782a1b21dfa89ba4c53ac6e0952f51c0782c388ad153546615955dbec38e)],
  [
    (0x223eed8fc20c8de8ec8d73d0c2fbc565627a2205a9e99704feb09740e2c2bf15,
     0xa8dfbb971ef4c1ac49f7c3d290dbc85c1a0b6cb9c9c2b0a61ee32583a8363b49),
    (0x6c2a36090598e70cc48107750926b86d7f33527cdea50ca0c16c236e846e364f,
     0x5b4ef350a6cbb0d615c3ce7d66831790e0fa07a49db4afcaa6755e52f024e924),
    (0xb5583b9ec70bc04ba1feb333aaf49276d3030009f871e14442806b2da6dc1d29,
     0x40d34174d58831286409f27205f61643fc84181189d012b51db0be7895695f20),
    (0x11a05fe03ec955eebb254d3062e82b62a47a76a80d5f2b8205214c050f15dde9,
     0xfd251438ccda47adc463e3719931769855ab13018f9e3df67eaff46e9d529b36),
    (0x6d8bd565b32d7ed75706aade3e9f8ba889f78b55ba4690158c3c669c72ba075b,
     0x74afac0487cbe0a84e801968b025d8477f48200dc3bcc1b525f4e63b805f08d6),
    (0xda22c212c7155ada816822005066b0875f188ccbe6c170f5e2a37598a9d82abf,
     0x9a1bfe433ecd8b664a73b54bf997cb2e4b606b846d715b99151e5d3afbddb479),
    (0x5ce1680cd818b689f7382c9317c2354daadf3f8df1a6e02779732522cccc18ad,
     0x7921dfeafe238ee8b55ce5b4c51ac38a4330689c1cae62ac359ebbfcd9ecbee9),
    (0x249577581148735185a49de5ca58aadfbe9b79f6ce274b18e13122f3dbfb894e,
     0x3a1485e64c5db15e4474b4ced3fc253b1d6a974a26d13694111def61bb939099),
    (0xc665427afc9ebbfbff05481a66601023e85461fba80d59ff65994ddb0f5f27ca,
     0xb22639d913a786af61becc60ea420688935289f88d49efceb0571a697587fd52),
    (0x71f9addacdddc4cbf0947430418042ae0bdd41d32238e9975afddab61430c9ab,
     0xb63accbcd9acdc78e6f1fe801b1011a6d9bdf44d29e2047f7090c016c52dd907),
    (0x400ed3116cdd6d033851b26600f9bf47ac30903f71432dae264c76680448087c,
     0x76f2e7335b2c516845c9f6410c1e673afdfd974afa6da98b045e79fef8fd2424),
    (0x32ad31f3f73bfe039666ebe66ce576109f5a2202a85b91e87817acab4baef62e,
     0xc89cf1fe8c11b2d759811c89e1332156ea950593515056e6628330a425bcf4d6),
    (0x7d3e738af2926035fac1a03d0b7a50509a515bb78b085877889e5acbc46d7ce1,
     0xd9fd2c805ad5909061c4d451330163766f2e29558f7adc79861cc2ce2a6cb0eb),
    (0x5e70062e82349cbee6f78b0c73f13a5f8552225ec5e48b3c0ad7337ac0b7eff3,
     0xa068c99e2ccde707ee4f727c4ecaa20f392d2a29c33cb3d26b8d5048e7073969),
    (0xa0971963c3439a43a9a26348e5563ec01d72aab4b9e5246e1888d65861a023ef,
     0x608748d23f384f488fe97ef7fe38e60873fac1a1c45a524b567dd54badb9b5b7),
    (0x16e4617f27855ab75cab07d6e8bed74d225d906bd61fce43ebde86ec1ed66f18,
     0x3516497c615f5699878f20e86dcf2fadedb5484f8aeddf5b6568aaddb2fbc3dd)],
  [
    (0x520f2beb24720021b2e9cf8e66eab95d9ea02f8130d69a98ef0a3fecfa181e69,
     0x817a069babb2bef36e3c7b510ff5f6ff1203772171fa6d5d621c540a1df84361),
    (0xa0aecc1bd063f0da20e012f0095cbb216ce9bf75b9039f3483572fb6b294cda6,
     0x056e37233f4f85f42732b8448ae336f8c7d59ecf48ce9cdc57c21c3af02909e5),
    (0x427d200e34189acc9e43c0d3b714ba3750fe0c17145208fd8a10b53189e800ca,
     0x0807804fa027c9524d3222a58f342a739c25f4c8ee1854c105dee24fe616e2c0),
    (0x4c966787ab712a192c03f8b04a73434b961e4047ca28b805c222653a4f0d56f3,
     0x2bb6d593dce45655a87d9f22c131c159c1be93da5b0ece5ccc196c42864fee42),
    (0xb3d36ee9a66dac69813b9420fea0bf368a41486be2c72c2c22c49ec9b809b7ce,
     0xf9d81a284b78a4c47103c49dd810dbba0a3bcd2c3a3264616fddc08a328cc987),
    (0x9ee9ea42faee52686f414abb4ef18b9bdedafa5e303840873de865ade4d55941,
     0x523fc56d1932178e51d7ebd29e9c3598eb19a514015f93b9260faa1637a55a4a),
    (0xf5384858fe6f27cba45761c892bc6b3fd60fbe9a124a1458501d070cb98fe684,
     0xda7731d0e6fec4461eda5d9b05a482923d4606a95b5a8e5e4b0271f7b59e763b),
    (0x4bd1798372f1d637b5c3368289a90403e976404006166d8da3e3369390d45871,
     0x7460fc76e3fc27e5ae6d7613b66a694e5ec4bcd8fdcf3b87a616679ed5d2c53a),
    (0x0cb1236b5a0ef8b26bdadc06076ed265de024ca5889501e370469b8295caabee,
     0xd1359afdfe8e3d24a88b97cf744aff76f1dd387522aca4324065ddbf0972ebf9),
    (0x7802eabce31fd60c04a12dddde30b1c92c3832a8084db75d52a3ba2b91502cf3,
     0x76aeb0c95f46530b3525c5b811e6f91a65d6f2abfaafa97333707327a37fddab),
    (0x0af61472e19e38736dcbb556358ae884a6ec968405f48679e8815ff62f93a675,
     0x136a8a8765681b2a268da30c946cea90c65e57ea6f22fb7072334372a5f696be),
    (0x3b4b36c8879dc8b1d1649164c447d1b1f09a69602c46585aad5e81dc0f9f44d4,
     0xba904b3b64bb495d0611b9b8ef80531d096a25051730d9d020d4177b3b6b234c),
    (0x299585460d87fc1390b1f9cb6ef072129f30a5dc9a5655451192d9d493a3147a,
     0x28d658f14c2e868418a306d44f49ffbccb18548ccb1644a8d3323effc17db9ba),
    (0xae430a32f412c16166310f9c914b3f9967b7abdb4bf742ff44ba60cda99f8c71,
     0x4cb8f38ca985b2c103c286aa8f07cd1b4bc0fa2452d7067d1e6776d388ace52f),
    (0x4a1c5642fa5cab6b460d7dda259bdcd1005a0bd25263e57583ccbe808c3bff36,
     0xb137007d5c87b64ed8274fb4a12321ae09418e28cc97bbb52b7bdbb99fe4fc88),
    (0xc0693a17a6df4fcadc1291a1fd4c2b6b50541e89981fdb2580531fe1c63c4962,
     0xb1ed4e56520f52a8aedc20aac6212c44245f19630a99b8d0b2c4604e0117f203)],
  [
    (0x0d0301186ebe00a3da915d1f6cb4e1bae823fd73fd999681b5560fb6700a1acd,
     0xb15737bff659b96a0ad8c5647931d76f970d01dbf9da0e0b744fb0c989fca8cd),
    (0x462dbbba5756f1ada53e47b073ec12b0779d897d5e4606daa12b384ece53c2d0,
     0x8035f7ff12e10c258ac1d5383cf607fd273d1ebfecce2e1769fe09f2cafe37b6),
    (0x9bb88bac0d1bc8ba308f2afd653287b6ebd0bd31d5703aedca442d5a2093c22a,
     0xdc3aa80028dc3208286d816cea5c4c8dbd2ac950ca11447cfbaf853875c1e3b2),
    (0x29d1febf0417aa85405f2369d686666dc27df9efdcb9ea58854d34c77e6c5520,
     0xdba7cecf9cb7680a24d008a2e31e65043e6a9669e2a27f9e9846819e93470afe),
    (0xba964a2b23613f9a7b768924e0da2f8c3154a78a74e35bc526a43e41d07fa53d,
     0xf39cb9148156df29ff992136bc6402052e1bfed1fb54d0575a548d35ba1d16c4),
    (0x9aaf2c25d1aff53758482a99d42e53dbddfce99dc40504c5c913e64699b444ad,
     0xc355648c2d63dd6cfad0faeae6225bb074ab5c99f1393e2bee90f7962664cf67),
    (0x3298e31b28703e7574de1e45055e1327cb35d4fdb377b20ae4e31d271d91cf9d,
     0x4a52623d3d155bb9c70dba22e8aab0dc32cbf30123d101c655087237de013339),
    (0x48d94f6b9ed3a2c3b5d426de96bc88ca56f7dd734541d5ccecaff541338d6e43,
     0xf3e19d88f94500d8ef99b0ff95225151d575465b0b1867f26354a3bb2ef8279c),
    (0x22d077a5ca90c56f26367e9a17c5580761745658c88f5415dbf435acc85dcf57,
     0x3e47d47581251a745724d06fe3e6f954ba965d3e6e06e405fbf72258a2e04e76),
    (0x6addf5577f3fe2f2622ba25814d711b00d160726d5668ac2b8ba0151e0fb82f7,
     0x4f9cc8d8956e303a93fa11c11c240f89ce3a060ab73826bd2b831e1c6b9c9435),
    (0x054493a385c3da7ff5ee6d1f1a9158abd97c7c54dffec7564b9331f6641f82c9,
     0x83e144f5f5f876ae42a4d9c488e16d55a3afd447e4473a39a57a05f5eb7d96df),
    (0xaf96f33eee6f8cfeedd8fdfa2c378882913ec99f627849a292a83268e32dd620,
     0x13f9b5a7d9a12a5333e59f2989f037b0236bb531b0b03a1dc06737e5dc3fa8a5),
    (0xec018db6ac45ab380b9c3355848f373dd74e292c5a4db2ed50d8ae9559029aa6,
     0xbf4a933873de19f61c743d284b13475e8c4b628d1a8798641f44690269cc53a8),
    (0xdab4d601187b7ac5359ba69b23f603c1dc8e4cbaa45468664a8a4f47f0cefa69,
     0xd2bb5d7aa525deaa1a4b4f81902fb7339fa6585452b4074ba6ca4337c1ebc8d9),
    (0x1c1ebfc4f8ceec645f2acb28e04c81eb54cb95ea4d698470eb2e92d5f81f9567,
     0x5ec36159752c9091b0cd861634f4db4472225f9937fa0c858f799fac06e07423),
    (0x82aae2b91466e336d6459e2936158e59cb5b2eb4958df5be0d0df6ce51efb310,
     0xf4837f97cb09311ff10c758a49f026b77152ecc5d4c0a933fb658a39411aa636)],
  [
    (0xd39d3ee1c2a1f08a005ed4b03d845ea27bc388335561bb44994f523a626332d5,
     0xc4c3419fda2681f736ce424ff264f9a8620e35fffb7060176561fdd3e7676b0d),
    (0x34a07f82b749fcb1d17d75f44ccabc62d69eb485653120d000f831769bb81648,
     0x162b085edcf3c7b45722889fa19213a0b06ed4d062e283f82c3af787bbfb5554),
    (0xa127ee79348e3aa2645cb26874d5244c9dcf7dfcedb5e80136d90ddaeb300f7a,
     0xabe67d991493821657e59283292650d095037e8580e6161e488acc53575f1dbb),
    (0x427d09f8290a9ce515758e57db757a21c64387485ecf91e732670d2f7189e71f,
     0x95cba111a7ce5e039e94100917845819aac3acb4b0732b99846a308f38384a7a),
    (0x6439be919d972b29a10c73bcfb828ac741c746a104411154eb81aa377378058e,
     0x0f7de5687f1eeccb4f7164086397bd4c39e6dadf82b5e8404bf3b4b043a2fbad),
    (0x9a793b25bd3893902291709cdb4d3257c65259bddd59eba0db332a73f37ec3c3,
     0xea1d4307089972c39f37867a61208b272f76bdce9afb56c9f39fe34be43756f0),
    (0x82335df21fc7aaf2b826ba57e769b5df0649712bdb516609d0a744878a429f4f,
     0x038956fb85011ccea77985ff21d9951b59ac367a68677be62389f0675c93d995),
    (0x7842e7e2ec2c2b693357e8c7150a61f6518aa52156713b9797b7851aaaca5e9b,
     0x927090ff7b24732864da5c8b65917733d963bd82e068fc818dffaf656868a548),
    (0xb7415a96ce1dcc3eb2e541ebffd36db605c3ee41443b9373d6ffdb942f6d0d97,
     0x4ca8ab4dce52e21a90a0507ebafdbadb46febdd42f3af218e383682e163aa2f6),
    (0x7449c599ac3b32bbae91c97e378eadca7a8afe523ec354c9a3f0832e1b7cfb73,
     0xc5320f421c08c0ecff3f5d86de38d96a692e4c6af79da87ea619c3710b1c4655),
    (0x0d85f5ca6857e71587588c06dbffa084a71383ff84d6786c92a6f2bc8fec5dec,
     0x02bc51105b7158cde5fe74615b29fe0f672357c84c3521a8e87311b3b6c774d4),
    (0xb032dd33b7bd1387c08c6fe1d51c2180769d754a289ba48c37a01e48a105fc8e,
     0x99004e11b2cef28ac66302c4660cf95d05137e800664c73c953826db020b0aa6),
    (0x8269d57a45a2e42cc72c88f74da03089b43e299ed35b04ea824f5b284f973536,
     0x8556f6fcaf3fb974c7c740da1bee2869e89e2aaf29390b0c7c1e63fc6607b38e),
    (0xadd0a54b4de438a706c6a1ff2aa73ce92dab579597095c541a0a3995a4b6bed1,
     0x1fe3f746158a4d5a348e9c99d3633da325fc601629de10dd160b6b1afca906cd),
    (0x0c929ad007431dbfb997f6879ae3055add3d0e483ca09cb6c253edc88be85c1d,
     0xbc4fd2e3d99c2b044589da9d6dbd4b66b50df3ef078828cdcef1621584d2db42),
    (0xdde8cdcfb48149c5ef1c78024564eadbe3b697ba56807cfd214bc9a7d298c241,
     0xd88519e966864f8295cc9230de5b1fcc27154d7f6c1538af946bf0a75a4d2604)],
  [
    (0x72571fa14daeb3f36baf8d40e708d6b2a08d7626be46973ab828dd1a7cb1282c,
     0xccc832f869f00755aaaafea85988207a87ab01a70087108d85b1732ff22dfd98),
    (0xe5d70b7571e095f45f3039f060c46124adf2c77dd987ded2488f1185ca8d9d1a,
     0xf3a7564d21d013298cf3d0b175bac36439d75ea7f750d10582d586506260e70f),
    (0xfb43947753daac69dc36b150c03024eb6c76d8628e383f4994ab4700ec3128c2,
     0x0522894295aa8bd3d66879bfccc5ee0d5b86995db440fbb2fc68764a8dc79623),
    (0xa2f99d588a4c6a6fa5ef4dc9bd3d46eadd26c034b8088e9ab24aa43e3fcd3efc,
     0xd28bb41fca623b94d90c4eee92d4057872c3f8ce1afacdd1ddabd3552f1da46c),
    (0x03b56be8e330495b08d381f17c80acec1c068aeddbea298f5e7c3becee8314f3,
     0x6635be5217b444f050e32d351fc57d8c95ff38f6c4af8bf7aeffb8f29222882d),
    (0x77709b7b20882a581ff4dc6d5c67a41eff42bc71970ee7f5242792d2e7417ce1,
     0xbb2930c94bba647758eee769591dd0592af2a8cd5bb721773554731dbe217f2c),
    (0xf8eb8757831dfc3b29c110d23484c1c4fc8c7e0e0b13247b174a9126cecdaa7a,
     0x79f00ade83f80de409032da0ef42daf43f6f69ee7b9b926c022f0212c0067452),
    (0x8cf60f96441838d60a404ded85342ffb01ca4604e25726581e6adddaf176f2c0,
     0xa7fb754c8c456f7f97101c85809c0d81fd588744344428039bbc691cc9071c4a),
    (0x6ffedd91d1283794b398fd43248c6ba708e1a7d6a3c617c0f8559ff4c1e99d81,
     0x09bf250d479d94ee42f6fc1838505989a9d141d53490530e8a6a59d2d629d208),
    (0x7981afbf870421ccf4cba30bd27370a0e68216e50bedc9466af7a1d5af71013f,
     0xf569461203f8f8fb3073c936b1feca2286cfc4be0a47edae02496a679449f0e1),
    (0x84cc22b3bf80ce253c65aa9b46332bb978ea1bd8e5b08ea6ec14f9e12cb7191e,
     0x839a02689f8f64b83c9d07c5aef6e357cd4ec1c619087da40098e9e9d49d5bf1),
    (0xd1287ee2845aaff85d45299ec709ee8ac97038732189bc7dbcadd6715bde48f8,
     0xd5fdcbce60d543ae60ba649a84368313ea46588b990c88d67d1f8874db1dbf1f),
    (0x589fa0869c04339e9c1bea26cdbdc13283b82af429c5fe88f795643037577dd8,
     0xf32bd122ddb66334df17f73fbd9ddcca85fa8b21d295d034033e9538b13799df),
    (0xb8561ea9fefacdc85e13479fe28227b875f3432a3e713a10cf3de9959890272d,
     0x7a16eb55bd64bda8d2fa1cfd0c63036f9b0d8bb573809b62a6a297a08332aafd),
    (0x4df6ef64db38929dd1e9d0d05b7d4f84b09daa259c8a705e4cc34ec13cf48283,
     0x94d671bdc339397a0ff5b602d520aabfc6b1d178a293f8fbe16b0763aa21ba46),
    (0x49badc32536438f0edbf84eb981f0a624494f6df4eb1a9f5f7e48e8a2ac13e27,
     0xb3d01cf230686e28253d73a1b727bc31bac67d10df1c94ee50bea541004f7571)],
  [
    (0x810ee252af7c9860695bfdacce11fcb46f33696ffacd665ed433e50f6d3549cf,
     0xd485717a927317452b057e74d69fea72f7dfbebe758b357b65450fe17159bb2c),
    (0xe5fd5fa11fd394ea1adbb7b744104213daf04dfd4113c22d896c42e8ee36860c,
     0xe4e879de5a56ba98276071e3099845236772cfbe18d1015168235d941a4e0551),
    (0x2b1aad44c3f0cc6fe1f2b9a93b4f03f82fb38a57be9af1a76c8d0aa9b898fd52,
     0x65a947ee4a0e2b6a2297eabdfa6e4a8d1c57d96f0367d26d58b5332e7cf2c084),
    (0x6e349a4ac37a233fff1d4f5d2ad9caab01a0be881e4c705eaaafafb0285b9491,
     0x36974d04ff8cc89bea3d43665f6d5471d99e6b6629383260cf1c12464a1c6a16),
    (0x98c8ce34311b1ef8e231468606921cad592549c85728719ff535b616fdd5b854,
     0x3e5adca1f970e3fe12337097a9d8797467fc3ab90bf7bbb728b937e7e9090b36),
    (0xfb8f722856a4f3eeca6c013adad066d2b42c026dda9c8371c26c49a1cfe89d80,
     0x39ff21f6e1f24f25cb5fe596ac19853434c1a74cd631e1b308b579ecd850935b),
    (0xfae1d3d88b8260d4b6719b2e05dbe894acd21cdd1a888044cdcc68a7b3f85ff0,
     0xdc5c3bae495ebaadc085549c16dd13edbca01a94dc52077eedfedece8a1c5d92),
    (0x9d9cce82ded092a5256cd18358e9c5ce7a64ae06c0c853df27f29e148f929057,
     0xbf181a753785e644b70b3083aa9e29a0e1e4709231bb9e27cc6e59796e93b7c7),
    (0xb18bbc0e72bf363886b0fffbb4214c9e7872e1c846085760cc17063fbe7b643a,
     0x2d1dbb6b9c77ffb69fbfd98ef4304f201edeab1948c29e0c8b17de0c722591c9),
    (0x9b670a37bbe0bfc869cc20e0cd1b66bc1335e1d59780d14df53f2c658ead09f7,
     0xbab38fca13dc22483604e0d2b88e9a630c74e77c8326a6e5ce53dc8128efbeed),
    (0xfc05dc42ae672f2bda19fea4b3ca63a9a86691ab2f226b66255616d3c7141771,
     0xd6f6212fda84eeff0f434f551b3702f207b7995b9c66b984a9c6e786718ba28f),
    (0xeba8e477cbceba46fdfb62bb9ee3b78dbcad24927c87c37f8ed6e8c85c0a3f1e,
     0x8b123f35f71f9609b2944c046b6147fb0bc498e87976deb637d38cb0eeaede4b),
    (0x6cf306f6fb1db7e5b4d03560fab80ecdea7df9074bf0c4f84b0e7987b5b41d78,
     0xf81862f5641ea3ef18a09a9277352da4ab254f4000f9be330d59fb5689fd4773),
    (0x15c8295bb204c848bac215950d1850dff1168a32558f69cda155dcc7de79dc24,
     0xe3a26e3b6beab5e611cd5143bde4a59ec396228e30447bdbf661aa367d8184ff),
    (0x4bf7e38b44f5144318327757690ba8c0a2923d2f7eae4fdeb59b01579f759d01,
     0x8e1adc3154bd34164fa585c4c389f66dedb7d36379e53b36b6812563b413fc26),
    (0xc26fc9c40adaf57e4b301ec4578c3e6e573441c32c7bc863d3b3a13f1402b9d0,
     0x53ef07f60725b276daca2a8a6a8c608fd05d4b3f1af8145696e71bfd7493cea3)],
  [
    (0x0f63cfc82fe1e90724d000fc68225a3842c77c0b83137aa9a6b5c9d646ac49d2,
     0x94dcfda1190158df9b33fa5f787fb1ba7d38f719ec8e448f22d1b01bc6441f95),
    (0xf0cd9c319cb7560bb617d270a57836da7ee8967282c4da77211cde10296c36ef,
     0x8adab3ad0b384fd0781e2ea44e7de4ec3fb53cbb7e7334f301fdcbf7e455fe90),
    (0x4f7199dbf7667f125bfa44dfda694ff368a923d78104fc6b01778a2b599ff0f9,
     0xc4f710bcb42aec3e02519a59abb4ce7c08b5deade9f8131dc06d8ff6e46f2a79),
    (0xfe3d7a81a23597f67c208c49ca97579f67e6d0567a6fcedd3014368b4ed80940,
     0x79422f1d6097be8326da26f32fdcdffcb1f3e1e724b393665e2032027e096ae2),
    (0xffaa842f68201d1022ddf78c9bcf2d5e67f14edf39c6356550549c748c878145,
     0xe3251d105697c3bdac80e178ca82755bc09c4be8054be41447d94a9dd1b2de28),
    (0x1f7f8a3b83836a2e5b79d1ca279f46c3795e84ee5962ed5e2bbe09d35001417b,
     0xee8fbe61594b0507f110da07cc9155c0c84243350f84f739692200b14a64dc32),
    (0xf65027ded555875bc3f7f248bbfcbb9a9899bf6a40c7e24d2f6a5391035703cc,
     0xbd819bab110fccdf19d7e1d249afd67967b6eb54145b4431a7a16b69ffff3b37),
    (0x8b1adfbc42449325728d06e97d04e61f9c3a2deed4df0a4b263a2cfb9db3b381,
     0xdd2ae778f530f17480ba1e14810ac7abee2be5c766daf7076ec1d9397e053a1b),
    (0x781b3c5f9b15565d2f4ff35be3b70a0be5b02fb60c84f17c3e708e703b9f0426,
     0x15d42362999be45da412f8e2443f0370bde81eba8b496784e76c636a6e124c3a),
    (0x42be231006629f8511e0c1fcbf3a33c6550e66dc08276fe70f503ae2a4af76c1,
     0x73631cb5476fe13ee1ac7036446ca192ce436668436a2262edf7743e516ace49),
    (0x6685475e6fd31c9d4f818e8fdf5a8d25258fb075b8ceb1f2d47f82d4a160bcfa,
     0x45a155ef63f8a81e5ad7ae16aef1f90de0a42594f0508bdbcef6385ae1e9b13f),
    (0x91b734d6dd64a4eb4ec24e8d339807e8c93eb97617bdc5608ca407c28034b95e,
     0xca0a7c6006d861aeb953bc32f09e4e004822cc4b141823d5d0fece398f668b26),
    (0xd971af1571a256aa5cec0610e5962db43cec1e0625a87cb04c74d4470f33e712,
     0x50747c5a03a26c8bfb972d834673d881caa1da63d74e9d00a044c983a2ef4ac9),
    (0xd99f72fb0a21ba554c7bead092b2d24beef9075e18e1b89604349982a3e25566,
     0xb488b15a2e3460a6eb388ed11462f2f62a7a98389ece3205b93e09315005e541),
    (0x103d1a1308ad646c401c1509a4e703779e0d872cdfc58a8b43f6cd67969d56af,
     0x8de1ecb2a634cd82521ec00136e661424e69c5acb9bef78c078ee37e9d062427),
    (0x070ef12dec9fd9ead5e88a8bb6f8210e6eb8f064056756d40435d97a205b9d8b,
     0xec1f205114bfa5add22b49e1b8a1db5e12a75338a7404ce34d8495053bcc876a)],
  [
    (0xc6927bdbac6a7394164a620f9deb4d0fd9f358795efd488b43ed81b5c4e83d33,
     0x6bd4c284398538e07cf4e8d0ffa348f12868661efcd7e1a945c28df79f9e0f03),
    (0xf578dc4bebd6e2a781dd1d3de245e7dd2dcf7bb73249a89f56036e8c06d75fc1,
     0x6304c0d8a4e97818dc847c31146404abaee362889c39afac4c028903df2ce7a0),
    (0xcc83d20f811fdcfe1b24b44c005e912d5ad009827a68bcc2fb6836c327d02dcc,
     0xa593426781a732b2fcdcb1a8556da9c2699481971475463536527ec1666fba0c),
    (0x665ca49b90a7c13f52eff79b1cfc91732643672b9a2cd5e5e4ac8b33070d3aab,
     0x35986e7bf56da4d7ae9ebbab3cf9a5308a5b922d052f13415a8dda59b3efb998),
    (0xe3e982aad370219bb377d4186b2447cbdb7f32f79a9e0c8a63ee4cbd8088b454,
     0x8bbf1d3375040c8fa13b4da79585942372c368650773f24f06ccc1e4c2a2a593),
    (0x2c6360bf7800caedb07dfc6fc74045ab5c16878ab771b64503c187d0ad886aac,
     0xde29d50a41c26ac290ffbf2492a79aa6c9e6f88e7c9a6dba24295bb5b9c972a3),
    (0x26897ae265012b9212e5b0467594f8d7c90caf39861dc1e6b1f0fb68d84d835d,
     0xd2c7980d679b3d65733e343e3bbf17e8403ee41c0991fbdabcf68a08a4d6755d),
    (0xb0317258e5d37cb25c748b2ed085756e68b83b3a8630215f534acf4fda79e5ac,
     0x65296e94d399ddd5a147e410fd1754bd7d7dc96b3d9d50696735841ac5ccc2c4),
    (0x6d51afe89490696ae8b6f2662cf8fb81a35daea080fb3d321e71c9a1deb8568b,
     0x8c6865ca72284ee8727cfd9ddf6f463ce3d24b7f8621908081beac6e51803a19),
    (0xa651f5d831d6bbdd1f897c0e1da0cf6c3e32279677cb637fe00df169d23233f3,
     0x78bdd37c370bd8dcca753636d0abcd7ebd527272cdaa5e4add61af191a230c76),
    (0x2c3fefca19cbd8861edc2f5cc2290570e1961b9cb77fedb7cddb27c17078c432,
     0x8eb7763f8586d90af03977a932aa846396c610fdbda71ceacf880a36c2af389a),
    (0xdcfc53b34749110eaad7dece184efb4fcae81966cb47c387831ab3edf0290a8f,
     0xebedf5f8e901326fb116a81d6284180ac42a1ad6b91f80676698f23c4cb632f9),
    (0x88829849db903a052d28dc30782653c872b0b1786f948f5191633f0ab2cf8940,
     0xd12be0fe8b32643c7af739882d9070644b9e7f0c86f782cbb8095d0c6a19d2bb),
    (0x9d774e4e4787d100b2db4a96d26f247a54155cdf5980ddc39561f28b638a7e81,
     0x76843cb37f74b98d7493483ee9cfa3541c363e2d5e0ae06a1a9e6e2e078637d2),
    (0x1b192421d5cc473daa1c5ea388e5402d72d3ac3d880836f40491f1bc789a283b,
     0xda3bc8656d837930639961d03a191ce2b0a8482d9c6e75b85c0b99989dc84cac),
    (0x6fd495f71c52c66d40ba1a4207c8d9df6d09b8c16c9db4c8d7e0c4cdb30cfb3a,
     0xfdc229af4398ec7bedd987f749ad722280c2b746e57d8362fb0e169f275264da)],
  [
    (0xcfc20755135564003c57411c269064084bcb6e00e6a9c3c2b0d1ed8452666a58,
     0x094e142ce762c2b9d70ba90e991eca74a30ba2868b7dd31ea08b1c505294dba3),
    (0x4b2969041b265a9e525c2144fd1bf7fa1efd130aaf4c89a7b81d783e979f3925,
     0x9df088ad022c38abdaa7a54f403563f335c82e3203599d8aed8e9634b9db65b6),
    (0x136f4fb30155be1d809cf8523524e36c429169daeff0354ee5cfb066bb3fd30a,
     0xe2bf6af25eaa244ed9928b3177aea73e6ef0f0b4506ba1a14826af011fbba712),
    (0x808fc59c5da4a32557b8a70cf6845dd8688ebe99e3ecfd078d084f124237b64b,
     0xbb143a983a1e8dc8b5a5a8db431ec29bb66825d5edf29386a9032b2ba3585862),
    (0x9ae5a38043cd04dfc63a657e4606eaca3a7f176c86ccda9035ee94ce12ae381b,
     0x4d65f034f7e4b286347b3b359ff20f071f5d6d30caca5e649bec8d15ed251b46),
    (0xbf8f66b7e83e906996dc9ba1f424b578edced484b105eb049e93ba24f111661e,
     0xfec85fbb8aab87084281d89998e73754bf07f3778e2cbecf872d4df4d7ed8216),
    (0x72b05200a1545cb6ae9775fee9b02d42e6a116ce42d052999a3c0deea5ba5b0b,
     0x6b000c064a73b671c8bc5f37e4b12a97e58930788bbd9b32bc506f7d31a3b4ea),
    (0x4f53916f776b1ce367a5e29d4280db9859805bf01d6a537013b5bf22765fa7d0,
     0x999f450d85f8eb1d1c50d4b7e5809ee34206238ea085d103714ff61f33ddf626),
    (0xf4c88f365aa6f8fe27f31ed5c6be7b231394cb73c66a9fea658a6051e4c79e9b,
     0x060e7f8ae96f4913a788097d3a92851d68b3a7d5e3fb2a6b0fb0721f4aaa499e),
    (0x247aa4c787b097bbc10b6fa4ef030efd42bbf465a21adc1a82eebe731a3a93bc,
     0x5825653c980250f6a4f6ff11344579cf6ffbc26ac223523e8b8dc632f60c77da),
    (0x2648487f792c16131cf55e7137a0db380788939337a0333ab2dd097ebc1aa2b9,
     0x406a7a341eda6ad38ee761de9d276be26239c81d0eabf129dad013363fcef261),
    (0xcddab96d8bf236acb696e0629795914b54f20a529bf7f0264bf367ba4a493b31,
     0x847a670d696b331788fc8c87468544c5fa1d09eb81cbbbe74ff2c70aed25ea13),
    (0xe06f4097d5d4ced3d6e7680bb310346caea638c826dee0b5f133421e64bcb626,
     0x9063d8a3333c74ac2e73254f52d0c180f3d867fde589a59a099614527512a30b),
    (0x217e76ea69cc76131cef423c0a1ed5d32ee7464b467899ededa6c595d314e7bc,
     0xfa5817e2f3144e61bcd6de849fc74f6b12d8016b8a893f1627ccce1fe7cda917),
    (0x998ad9f3f76ae7b27490caf61d72879f1583eab40bc619921f3541640821ee4c,
     0x0ee4ed6e542e2a10963784eb8426b95fa9d7e1e6e8da3a7e1e181950a41157f7),
    (0x7b69cbf5df44f0648c72d3d2c8de4fc693f96472fd4211bdb79d4cc5ac751e7b,
     0x9be7048696c9cb5d0a437f6c7917d60b1a5325f8f12894e23da90ca2f4bf94e1)],
  [
    (0x22dfa5579cc4f0699e158614f1b768d96faadebdd73d68e5949c9976e1337c26,
     0x1c6ca5800140b8c62121353c8d694da124866c61a504f5b9ccd6da17be93c6d6),
    (0x72edf52b949f905434144f118d47b8e8aee806fb52c878c8f1604a7dd4b79bb8,
     0x33b2818841010d7486e8fe58296deec89051d0c09cb7cef3ebfca84e2127015a),
    (0xe5464d0d7003109dc4978bfb95c371ea70ca6ad1532a8c99bd5660ed9aed9f40,
     0x8e0296a7e97286faed7a741712b42488abf57ea798c9185b1af32fdfd9e535ef),
    (0xe63f4152c92e8c8f8cdfe205c93987e89bcf21e38131ad4c01079383171b445f,
     0xfe1d75ad242cf6b14f3954e53b06e96862ebb143c980f05a729462a930add43d),
    (0xb93a787adc16f95e6e6d94c0e8f488a0375333967674e99b8b57416e1f017d5e,
     0x0d57bd8e10b831edf28fcdafafdfd8d5c134b4139aa47c1dc3ac51a2dcc99ccc),
    (0xa145c113c359476c328ed2fec75d915b3a822aceb5cffee69276fbccf0bcfc46,
     0xc1437bd26948b9b05634e15d6516c82f01e867c3aa6c3d8ff61a81538be17bcd),
    (0xdd10ec3fc0bf8bb1f0545ff694f237e8a0f3c437e1b1e976d2fcd2006c19d4c7,
     0xfcbd604dc027cc32363eb1d85faf7706ed3714ec5f24bfe64f89696cac7cd3e1),
    (0xb8003478d4a4a068c44bbe322574692ad4c1c8ce2f8f01aa5f95c6c7af8685c8,
     0x763d517ff44793d2b05bc82e8f2bc5cfea1db16bec04d3997c8fc6e52eca3cdb),
    (0x41d3444edd195472cb7ed4d27661a5084af2f70ff8820d6e16ce8eddc355363b,
     0xc0519c14dc9360a6a13b5f916ab19c3d9bf69356aeb4a20017fea2b438da9649),
    (0x66e5191bc62392a137f3c576b5c8854fcb31ab63ed41ccf9c2571ae92e42e171,
     0x87ba21de8a65c0a4f3a25d6767e2fda6484b0283606fe68971565a1c6cd5683b),
    (0x09a83eccb8298c355984a2a916a5c34d3ae8766133e80c3dde74e49ca70684d1,
     0x9c9ddc4cde6fae63f296328bf70396dc02085610b375b8ff9a19867caa4ca4c0),
    (0x56c8bebdfa2286bd6907eb337375d270644b1cd46575f2404451c1b808bd98d0,
     0xf8239898bf17a3de313065b7c95c754617da427aafd60242c713d2acc4632b46),
    (0x637622fc3e82259348bedc23752074dd0a3752eb06f6a54d94683d260b083b6e,
     0x09ba0d0c923399e6529486a964fc02709f5e12f4324d006dea0005136be55d3b),
    (0x517a9ad0e5ce4806919a5c6c0482261e4cf8e1b80c6a6ab6363858473a977080,
     0x046d5c4fe4ba267ff19cb178a4b19e0c4c7c6adae56c61b02792d40c056aa7aa),
    (0x71e4702c6fd4f2a07a8be0f95eff722ae4975e4ac147ce84d3e926ab121550b3,
     0x78c008f2e2a79e42862c7bf3daa9fe5cc588716d28272d7313b92acf3cb7b280),
    (0x38e13092967609b6af22ca0ae7327afb842c7aa0903203e3f3b7963f4c830320,
     0xa77989cac3c40234e4174474f63316273cc3e831f7eca8c173b8fb62757558f1)],
  [
    (0x3d846019c681f3a3fdb516ace0874bfdfbd3e3f7ceec74e6ae8317f4b0166f7a,
     0x2a6279f74e0bcb5bac03cd326668c51eba68b4dd2b63c5010b12ee5c7c1620b0),
    (0x3a4c97a471771969d76cbaf4e33f9f77f3e558c4bdee5bfdfd8e139f8f5fcda8,
     0x3f9b702563d2262cf115193cd759a6e9ff373d9613e6c2d1da27e84bf6dce6a7),
    (0x9e3c3c1cde9e01b96c29b637601e5dc958c1fec1f72aa68012536fea87baa627,
     0xf792f804f8a82f216ccd6cb14879b397351071022a12f50defc8127b2bcfe0b0),
    (0x805ab8b6a02425ad1b920d61c7b32919563459ba6a5913e48c3184911a335cc8,
     0xcb647545344cd443afea51d8ac2138d76ca4846abcf5c0fd2ac512da8d006086),
    (0x84f21fd534a1202fd680bc467d5926de81b8da7a604291f0a3f4f521e447f2c4,
     0x59f72f7e4d329366809ddeec5b19aa4a1ca4861a39ab8d341d1e31814e9df3d8),
    (0x0d63ff676f03f59eac8ae8515e11115d140bb7101a09538c9f1b2466cdedca85,
     0xbdd6d4fc34af030faa9859cef28a4b5d61c2db4e7e208fc1755e55517d234afb),
    (0x0c326d122fe2362ddca1d4e1c17cf7b7cea27f5f55e106493f39e67f906151e5,
     0x9dea4b705c9ed4a90912f5ac03b7db1c0c3b7639c396dbdf05f7ac337dd35df3),
    (0xfcfd57bf6c8663bc4215d7f7bae371f5834d0ecc3adba2bc511053e453544774,
     0x3ee4d65b9de9b762fd44a08d07625f623b49fbb4b5587dc3ded2383dd6901b1d),
    (0x8b7e021217afcc91386ad98607a261a051314de5e4604a673e56fe5bdf53aad0,
     0x13cb1642b3d0995beda56845b6484b5713c85d05c4f9f509cbf411273b72aec5),
    (0x8cfd094d702afcedc8b46df226c023aad995c7a0a7e131d15a994b6e717815de,
     0x720694259310aa902a6c9e47ddac9390b7d70ec41fcabe757bc743cdced6a886),
    (0x68bea906b58ecda6f44ff2924a915b21a541166ecde3b289a607b3263e8f793c,
     0x0262f481061491f4d10bb79da413bbbed2a508ae4b768423d85b37b440292897),
    (0xec2ff21fe4f0cbe777791260c8c97dad89d3e1a767a613a7d17e80f55464d0eb,
     0x5e9451cd1485c0ec9bbaf9b283624fdce3c53de877cba305ed984ac2e9e6bc10),
    (0x8247f504cdac171049ebee42f67037b7c7ec3a9263a46189fdfc9f63b7abad11,
     0x94bba483f8c2cefc354832669c5edcb1e7d24de70c3f8c2efc518f8d397583e5),
    (0x48c361a0920f1a8db2aee3f84096cc28e53c8b98a4b97e551f13756db1761ec8,
     0x9bf44a3f32a28bc4242cfb07bf3f4b2a7bc1e7d1001855d4a98b672d8c31190a),
    (0xc0fa414594869a9e3068b082788c2f9db2c1781a16baa042eba8976299da550c,
     0x415b04ee1ea50c7bf1cb8de40f8f9f62b79e2a9c988e2c5e73bd9e39d50b693f),
    (0xe9ae30f8d598da614889487450436309658fc05202a9d89f64e5137d0d63d1fa,
     0x883acb64d6ac57dc1e28dcfb1c1a6b44e27e9e068b6a0c202ed710d1818baf91)],
  [
    (0x7ee84e25dded8cc723f5d00319e277f979d6122fc5dc22358735728dc2c6ff70,
     0x62d0792fb31aa1520cfcdc8402de7f423f3ea7c63574af6091a8afb063cd880a),
    (0xe968734d646f834e53e983aea57be365988c8b236ad9d573b02c83f9dec31a21,
     0xdf94739e5b46f1b5782a9ea2ca44092110f3a624c1f1ce169137ea8f5da6309b),
    (0x42ceef4d130e19655af1f8af518836c33418e0f74d4412f61df165a434a35ea8,
     0xf772f4bf1090997d66624b1ffe98ed30c33761e5886cb1235560ca0b543a1957),
    (0x803f3e02cd42ab1b0a406b8e6d9c87c197241afec47b266a56f8410ef4f8b16a,
     0xc097440e5067adc1c6097273ad8e197fa83b85f73bbad05f7f0309a804dbec69),
    (0x17b53ed3fbabb8847eae26be0c27eb4d39888d93472f19d6c507b6dd418e7ddd,
     0xeb2fea9ad242e29bbee096ec215e2d8788462e87cf488682fc27021b2b01ae4f),
    (0x43132b6386a892d279162ee6722142525ec03906616da680bbcc00c756b95bce,
     0x663e89248d5474ea592eaa8244415ccbd5b3733c9cd0a1424bdd3ff22f3263bf),
    (0xda11dae173efc5c346056b6d82111b459fd493ef82feab100d38ab35ce7c42d4,
     0x214369a839ae8c2a121dfeeb7066fa58bdb2601c40d507e6dc7402785545a7fb),
    (0x7a1a9660c4a43ee34bba5851f914d0bce2a272e4cd0eac653f747fa0b311898c,
     0xa2280dcef5ae20b0f3ff7eb63d1615cd9d958ba97271abe3e5a367cea1c8cde9),
    (0xb306333954991a21cc185fec170444935179a95d643e216f8c0ed566d4312483,
     0xedc92786d633f3a3afe9065a4391b6b90149b0c64fa89bbbd801ecdb0081a726),
    (0xd94d3f1accb6fd9e874a8bc6f38cbeb6623758304c2767d3d6d9d9e37a6a308b,
     0xe7f047026948c2257437b69c05b03284272ad0e56cd1efb092a9735bba21f248),
    (0x33f901e0ba44a628b5875720f2fe378f3984403d314e39bb9ae868a9e9adfe1c,
     0x6dbd3ddc42dbe79c1e740d9ebebf7fbdae9ec4e69dd1f20bea1125fe3652438c),
    (0xb320c5ca81d9bdf32d6b6bbf3f9d10a0dcca923a483c5c36266344a43794f8dc,
     0x183be9a0c3a8c8d6f081bf8599100153933e3b01cef03371620e28ff47b50a95),
    (0xf58280d3e86beee870fc4dbc7fb102888010080085fe65848a9443d77613aa81,
     0x591554cac17646a5a08a1c844160252fdf1204c10de44d7b14fdd82f7c978c38),
    (0x1b867e6b92363c6043a8cb346633f683cf5a6477c74806997ddc81ea77b46a08,
     0xea7c66d597038b437fc04601cc630e8bcdbcdd632f41450e439211141f60558e),
    (0x71f3786457e3d924764b9be59a31f35c93e5349049091afd34fc8820fbeee3f9,
     0x5c9682db083518a7080f31b133cf0d19a18c9c58ab8ff6e402fb34e0943aa75e),
    (0x30a02b0e7c4ad28899e84d92901b6dfb7de7fedad8622aa3b6c185c341dca566,
     0xd5f449eb93d3412bb2be8184cd496733d1319547df89e59fc7c81daa2fd3cf36)],
  [
    (0x3e658aed8f4330170ced1fc51fc7525658a2d790279d7b51c492ec644cd8f64c,
     0x6473ffeef6b01b6e7c311cd1742e7f87ba3d60a30ddc37220b61942e05da59eb),
    (0xf99ee565f1f344fb19f63e6315aaf9bdf079ffe1227b91d38303604f692ac542,
     0x713889ee0faf8b1b1065118f3c74d9048c883bc6d48ce41c8a1d661fd6219199),
    (0x7d48129bb829c1ab892450f8d2ad9228f1599f2ce2de04d3c035f697960eb8c7,
     0x536202671bad2a42956534013bfb6d7b2745ba2763a96ee024d785e13a50afc9),
    (0xdeee0c0dc7f3985be2d0f1cc28c4f5f74f3ce145ce2764a0972b3f8f81a1b3be,
     0x527729a6422ad600440ebc9361cf5a5840619820c467a0807df4adc0d39e25c3),
    (0xad6396145378b5fe9a87e1b91b4b5b3256c1dbff3b99a48fa691398a4a9eb3f0,
     0x0c6265c9850df3c00e81e4a21de070150275878c3ccb4c10437a243ec26b5302),
    (0xf1ad9199bac4a026b1715e1519d9ae0a1a2eab854d2026dcca6c0937b1b76ba6,
     0xf314874e25bd27318932e5ff2d6d08abedf5496f3ed9eb8935b3dfb807ea7b0e),
    (0x3e67e8bd3b982ad59012f5c6cd68fc3829bf2556782e6569c8327149a8c25ff6,
     0xab9697d4f085105510121e5405db3256f297eaa6c1753a045e3a75386ecdca88),
    (0xb747ea0b3698a0d049f0fbc53bc0dc4d1d1c94f88d44fc79efb26a753f73f449,
     0x6c10697d95d6e668fac859b8d1acc51635b804b543c129d65218c3fe228d291e),
    (0x46a50dbb3f16b103da95471d8496a31b0b77b876facb0d8fe5d27171f6bdf1bf,
     0x3f20b43749035228491ad08821702ea6848195e66b1c198c2a4f3f977b865bff),
    (0x6a8f24392c9d46ee203cc2ecb10934cb45f0c30783d2f383c38e438f0876fd4e,
     0x64426efd8315244ab9c8cf8f4e3484d741e2cd1827e76a6ff16b431b65ccde7b),
    (0xb1cd68680bbdbfdf5cfdbb07f56f2a557e20fecbfaa9dfc2e6ec98093a69fc01,
     0x8861a15b5d01a80d88f74f61c0c7a20174785bf53dd0955e247b4995986eb9ed),
    (0xfd32fba415490ffa919c384004113cef34c8cdbfdad6a0b01c0a8e44fc94dea3,
     0x53173f96f0a41ac99e6d1d63ca1fc1c0fef01b0383588baf58d190f6795dcfb7),
    (0x49d623e50dfdd75a78bce01c11de5d4508c5a96ce3720c9c54637e4182997cc1,
     0xcd61f28ba3bdecf3198eba7978a92421cc53bbff319c25af8c72a4680fb2a3ac),
    (0xc731021bb91e17452d51e60e446ef7bf2fb310148cf9b9fc2b1d402aba16f73b,
     0x751f55a5974c283a70f5f514bbea9af74bca48b6fac5c1ea9d3b47244fee99d4),
    (0xb518637c93b7a65f86c971d2b0d1d43b495d672711a8077323899fe8662595c2,
     0xcd909c7cf6e1d823f7db02a6431ce415ba6e0d4a14d39f5b30e453bad98c99ce),
    (0xb8949a4ff4b0ef5bb0b3e508933548d931ee696550f306506e30251acb452fdb,
     0x17a12f75e72eb0c5ed6515fd44d4df03ab147c30db1d9989208b83263c88f3bd)],
  [
    (0x932811a718b06350b90bc03fcc054de5cf638f560d2cf6ab25914f7881fdad90,
     0x0dd099bebf8990c1801bb9e0a851d26676108a6fb40449742f00b3309bbd11ff),
    (0x12ede0e226a177e5c1305047f81bc3289cb633b58e6634d214c6dd8a58d6cd46,
     0x99e66e58e7598b14741eb1870f47ed1cc3a47ecd67be487b332cca62065a6f4f),
    (0x1e4bf8889ac05f3a2516c09676f5492ba6e37b0d78f5e0d7ebd6a6777b0ac93d,
     0x429438c45198b00e8a30333382acac20935d5cfd5062341bcdb42ce04df0ba2b),
    (0x6aebfa3fd958444b9131137396c1c2c505891db94084c44bfb2838be67e573e0,
     0x9fd835daff97cf4d2e10c7efb61fe8eb7148ced32caa46d0ac9cdce9e56e55c1),
    (0x9d8c8bc003ef0a79e58e6825a3730e455351909e09da9a2d6c626f56c1770616,
     0x1386493c4721f50282ad4997794432f933f13253a090b36d543f78b6056becfd),
    (0x6af546c839839e6969f1af37281ef6068dc611b993fe62d43794eefa5abea82a,
     0x8243fc704f95f4d4e2ddaf0f7cd1a4c0a8de294cbd5c0576625578c7c977ec23),
    (0x5f989c6957353d8c9537c2b240509cd0cba0697d512e1f57e566f400b008733a,
     0xb3404fae48314dfcf4d15c53cfd5d11f90e02fa8ff031fa87dbec9724c3c2b2f),
    (0xc9d7b51be0f466fad5940332e540b015fb9780d78c935828a36da109081e9387,
     0x19d99719f90f462b066a7833ed201e5fba6c1e28b1a2ac17faadcd41d6d9f671),
    (0x67e24de891883be481451e96b1b3afa5efb27a9b4490937df02cc3a9f327a07f,
     0x9511d0a30e28dfdf070a1abf7132e880d36291a464a3856a1ad65d4770869e54),
    (0x5f45af5039b9276cb53b19f71cabbe46eb99194b6d16bda5fdeed650f8d1cac4,
     0xae3ffb95470cf3f7b61d6c59f032e720f7a1558b0c02ca5dd0784c6126ee9d77),
    (0x25bfbfc02d551c1cba14d07c717afea9f66de2364d8480899b185facc72a4be5,
     0x090037a294564a21c10a7d3d722d67f78cee2aa3647f73c42cef0ecd4cdf3d88),
    (0xb5e6a6b0dbc300d0f4bdeec6380d8e8c36b2d8842a9e5dbce6567987fa9ced27,
     0x7cc51c62c0bf54cc484b5e01f0ce596b2b373c4fee81b7497ba7e9b9592bef36),
    (0xe59d63f57cb7583831e30228ca85720addb9f6241aa9017e6ac07bb84f3815c4,
     0x2f80e7cee042cd52025dd53df57749832cfdb784d42f5d7369e18e777baad2d0),
    (0x02ea555aae7d249e0f9c4b131182abb022da1ca8f13c78ad4bf56bafec695bb0,
     0x0a317847cbf75658df072ec787080408e09cdcdf70382afa868583f25e05d9e3),
    (0x716709a7c5a4c0f1527e49070b8c9b2ad3ac8cde9570c3dc43f18d7f4d6ee4ab,
     0xee0341aba28f655d34f5e3d4596948683cc17fcf4e071177930852b0916a26b1),
    (0x9a38783e41bcf1ff348dca6c47e1bf65a56f46b47bd057c2f431f462060b5f61,
     0xfa0edc3ec687d733ca87314d2d29d1875a7799872e0aeaf67a5d33a9da710718)],
  [
    (0x3c351b87009834e62da964ef9b200678a884a93d0f2646651c894849cb198ac7,
     0x8ba6f9e242a194e2b84805210b02264a580f6c473326790cafb2ef9fe2c4b44b),
    (0x879fb23b5e5fcb111d2e6970e73e698404b261bee4b76d7139d934abd3c095f1,
     0x7f0ac52f798232a743201d82bf5e70073a97d08561bcf1c111506c72dfd75490),
    (0x0e008c5bbfd371fa51c1c9b90261b344b02931290a982feeb25101fb319d7682,
     0x1d3a1aada3521836e5cfb7796013a2cf666f76a6e5aa53b1d866dd1c0278ca33),
    (0x5709def871bbe8319587bd39031eebddaf3c305ae5f6e70b76b4131a567193ec,
     0x2f431d23be1c83ab838a7da80364ac164d80ce1b875b7029570599830eb2b669),
    (0x4d04e18917afdd4d8378660c3f175bc81c62bd67496e3298e781276638235d4e,
     0x5f0e6f4e98a0403be8a65b86c70d8a3bdb58e4e192b29a8532a8160185a8068c),
    (0x3eb585fbc4f012947cb740d28f53cad0f59df3e5b75f18ce2c2492b73f894ae0,
     0xef187575688899494ee23fb5f67c51d2eb8c795baf943f4c17da0c8632c7f717),
    (0x863dec3db7e76becbb315b3550c6820fbc647ad15a8704f83ea011a4e822f0d0,
     0xf63dde647f5e3d0f067fca370bbd0d3b20054439976b822901ff5d3af017bfc7),
    (0xf37dccb28ea7fd438c39e444249bc17e81a3e5d6dfa1e1b075d9bc15adf7cccf,
     0xd09fa4f64a9395bf0564cfc66283a6c535daa6da4a372904da654873907fba12),
    (0x0e20be26c1303c01a8ce31fd9e4c4b9f59b43da29f8e4d8cb510b3b56aa39dff,
     0x429808ba8836d5727a520e4da1e14ff6d9687cdb7db9810118187182e8ee47c9),
    (0x9d96dd288d2d997a77705a94154e490d9fc4ff6a628bf217174d46996d16768e,
     0x1386b3c2030ff28b02aa513679e4a03e9d06c5a4c11c714f77e2d9d8ce5d72c4),
    (0x46ba6d4750fa72ed25c36c7b3270f04adc84ad22aecc018f26a42d69ea40dc3a,
     0x2c417d367126d038c3be4263cb6e86daa2394731120c088c6c37d1c593e58a8e),
    (0x6136d7f1dc5968d3af3adf343e11ec39324673a273ef4d04cca523bb440e2229,
     0x061d7940c53385ea8549b9c802779cd93eaa2661ae067ecd7a7b2899b053a927),
    (0xc58d3c48375bc2f7a6453f94813f9ffd539ad799e4f69ad3e07141fcaaa2902b,
     0x4ceb97671211b8a01d1b0903aca1e7a93aafcaa9b240e354b3326fad5dc64e96),
    (0x55faa9c8673d41b407818df45d04ef23c54f3d835e2c79e01eb4de4687032d58,
     0xdb53e0cc6685a5bf5fdb9bd2050ebad34860d2eab7415c84ced64f6f89b95355),
    (0x194cc7f323ec13319e0ca91c1f66a4d2937afaac1a21459b919fca5fabfae1ca,
     0x6c53b008c6bf434c37d60d9be750860abe40ad8d09b59e08ad25143a8aa11690),
    (0x68797e91462e4e537027991bbe31139dd30bd0233b71e246832d7080eb6b242d,
     0xbd53005e045bb95d25c817684cf7811b82f2c67e42d9b707423fe20a6b4e185a)],
  [
    (0x92f4209b66c8cfaef6fde9b3e0c33398db0f05331b044320e5f649be9d8e68fd,
     0x6420b560708f7aa514375fb5eac6f1d009aea75fa28ab8dee9d1afcc1a739d4b),
    (0xf82b92198d6f55f274aec08c090524a77e2939247a837e7e9eae499c6254dc41,
     0xea3d8c145a6f145fbcd783e8e9b879cb9f17ca17fa2f30e7493c962e1402cec5),
    (0x56d4822a6187b2e0d3e9c4fe7861bb9374f24872dc628aa2dede15e75e0dee6e,
     0x00031f8adc7d138fedf69d06c79ef885ca2609692408169eb66417cfc59826f9),
    (0x2e0ace9762e666ef6f6dfaca487c21094482b8316231470e103c46e60ebcf726,
     0x0cf8daed9f025d8113dfa63aa57f334b1b1e83f1574944d23246a9d31f8d1f42),
    (0xc3ad49bdbd1516639b65b13ed58c43c5eb053cd4b5e3dd7530d78ea800ee11c1,
     0x5143e74d07545d0e29ad4f1b1aabb71e12cf15bd707eae1e99fd8e41b6427990),
    (0xc88690b2ed5529519c078571c673199625f293065876767c30266336c88bdee1,
     0x407be2387f8646517628beeb986575d1b0bf8d444e09552d274f2c2d852705b4),
    (0x8bcaced26c26273a0cf35bd85dcc1646e75c35d9860036250e5e3049a639fc6b,
     0x5757ac98861dd50617f411cb8a7909c5013dd8971a9e068be22ecf1db5536742),
    (0x54d5ef9b761324beb8d9e392369cebb5defd10b4154de37a85de1f0d1e935abb,
     0x6687601502ca3a13a6d7758187d918fdc0a0e3c878c1dde44d6341ba74f17e26),
    (0xc8f053987c86394c853262461b6a835ac433ef1c71f8057ec7313e9cf36658f0,
     0x1e4ebf5da4a6e46b93193c46b7b9045bbf5e816203b7b931ff398cdfe983c4a1),
    (0xc792a7ac6713c32d9f662449902fde0529c1191effb3492bf9942a6043a24fe7,
     0x6df141ee8310a45609b0de447383591a7e3a0319a21e60e32fd88ad8b737982c),
    (0x401f4836e0b964ceebc1a1603aeee5ac14b2ba0f1198d12eaec1a039e6d6f471,
     0x3e8e96708da64d166ef267f629380f183fdb4e49dd8f3f122ee437964fd03f66),
    (0x79432af1e101b1c7996675546aaeb71e112e09a733ae8fdbbc19180c207674f1,
     0x416fbbff4a899991a7a76b973ae1158a81392d1f5357753fd5eb558fde2ddec6),
    (0x273c69056e98dfe2bc1a92d93c8568667bc29e48944ddf129e65fdfd0d4a9dcf,
     0x8ed3d5056d873a1f42d495a06af75e27606bd8235061c69f69fce418cdfaa6b8),
    (0x060e86489034691bab18827b21c99e03c6c0ffc72b1a4523af5528416ab25b6a,
     0x84f435d2fc3a54f5dd71cd793ad0f9e39f4a96cb82f8d10b5207f90f93c7f398),
    (0x18aca1dc741c87c2ff7304f75051b9f0ef42f975a63846734b03c55b8e33787f,
     0xdf6c9c741b5a996b11bccfe47537ca16fd823b3d053e732c56f120a72d4bfe80),
    (0x4a995e5db12d8540c38659c3f091d9aa14a23f45c7e3636aee7332c7904fc3fa,
     0x716c563ad8d562689ed3dca4bf04e03c56534b17b1eaa99520a53becf3a5598a)],
  [
    (0xd6539c7d0f87feec94fe9ddd9216cd30309d42ac72e651425043dea7e0f222c2,
     0x2331fb467ec283b1ec28c85f280698de72692cf0327fda1003c5a57c432ac7d7),
    (0x3ffdfc7e3c2c0d58b326522418c41671d19857dbee6ddc05a0158eeae457a477,
     0x3d15002a14452691a023bf42723bbfc8341b0869df02c3a83a3a525426ee7cda),
    (0xe5d01454654450290308172978615433795510e72dcd9425c961b2f687500b96,
     0x351d151ebf57bf0273306bc72b8038a444e48831731eca675bd13302bf690cbe),
    (0x8f6927b04832a96c352f5bc0dcb50c862597655487d4f3da5ef7324c85edfa30,
     0x5d0721ec758dc1f7e133cb8da8aa455d6a996f99344b45fad08ee1ba55f2f94c),
    (0x77163f2e0a25f26033ddc1170603edde82bc0c14147a818df3d44e1f9a876441,
     0xfe36c213814c94a5c4e1728c1a6f37dcbd1b2502e2256982b54c02caa3bfaa53),
    (0x3072c30c69cb7c1c37de0f63c1c5e1b978a49d1d6670d59ef3cae7e9262a3539,
     0x1912e3eee4d424b846a8bb45592ca7ad84f15f8f1f6a3de61d278a5277c850e6),
    (0x262b051d46425c885459b1d0ae3f77e891b1f1267fca007cc1ffe2d490e31734,
     0x1cb0a6bbe7f7a6bd6fc1198bd84046b5997481e2304e6146cf5c8f765c51e274),
    (0xe4cae01d7ff72e215080ccf57df5d837e1331feb70aa725e6ba7a92079e5fb67,
     0xbc9578220ddef7a8be75f7cd23ef5a3106ff7cacdf449025d9243ee60412a77d),
    (0x8507671373e6b6e0963f4cc1186ae160525ab2c63629dcf9c4737ad11b7f30b0,
     0x47e7924d74a8a768f902ce661b8c005493d91da3b1c8d8d8d9be3180f6998bcf),
    (0x9cfcde29cf34cfc3bc146b4c255f1fbeada8dcdaaabda5fbdc988086365e668b,
     0x8d65adf70c11d11e15fc2d96240823ff9ca09679f92358b5acbb453e7e85d1e4),
    (0x41c47ec1a702579d50d06b977e7d33630948a7a786161156323cfd177e19a46f,
     0x4981994ecd92a14a393021ec13bc3744c865e44446c242609455998e59e9260b),
    (0x27e0aa7ab4999e82ee1ef1130e16363b5b534d050bbfb6078cf7230cb0ce1c55,
     0x0f7d9eefe32e8f281e648d632223df2467920c9091bb6cb0ce1dac2d79362c41),
    (0x98bdde0bb9daf737a39b37bcd721e232644317ab5d9ccea59766f264d66f51c0,
     0x1a2f6862db62da27e39fbf24997aa66f0951a285a2802108c2ecc758165166bd),
    (0x31ff32ea831cf7f1f3e98f60fb9508051dca76a3ea51b436775557f10296f4fd,
     0xfc2397eccc721b9ba9fd9ccc6adc2d2364b5c3392e9d2aca643e7bf18d2c714b),
    (0xb5afdb0a53cad9290a91d519d382376fe43870152b098f57ab651fc764465367,
     0x114b5c86dda16c2b0762f6e811484f49a92becae1aecacfb457e1875138d5523),
    (0x9f5fa58faecc2e6d81d63dd54170fc1022951722a63285626943f39afa833834,
     0x0137b286ebd093b106a8c1185845e24a11235cea6384ebe0b66c8725e77d9a3b)],
  [
    (0x961bbb056379b2400efe5b1a4843b28e6df86468bb1f96aedb567d6ac42bd6d2,
     0x804d8810b363fdc980da06cf895fc8d370686c0d328e6e39b6caf5f070a6a26b),
    (0xd1567f748cfaefda9ec673d2f55edde7b8ab48a54cb5f5b763b99ce74462007d,
     0x5931de26697d64135e6525e31e6266cb694497cee178f3c246381b6b0887bcec),
    (0x7b15d623c3fabb6eb76372412f50363b5420ab39235a145614e49da11f17a34c,
     0x44240510f47e3e9ad6583fbf66afe5a45cf5074496b1860aa0ef40b1e274e49c),
    (0x484e81ad4e7553c2df70e76a91ec3f40b4cd11878d3c06cf142b55021a93507a,
     0xc77e27e242f4535a67cc2adcc4192a8eea1c93e5c6ff514a830f87b5272e9d6e),
    (0x3098baf99ab41819da58f990a6946b4318311294ecba9477b5358b1e48ac2840,
     0x2ae9e34b58cf78382f0a4c3cbf36a908ab4fc17c146bfd1b66c4c1584198da52),
    (0x99f80d5516cef65143e06458871812c625cd4b9c0da44f9845eb40ec0ccced58,
     0x2f34bb3884b60b91acdb45bc4e07014d138d5117d8665521571340c9ce6dc153),
    (0xb61e15af63215db1b75f46bf433aa83215fdb83cb90402d5417499e84a34f239,
     0x5532773317266026aaba0659a618b6925d541e0c07e816daaabe59d4a127f89a),
    (0x5f9b71b86158b372c0bda9dff572a182502fbc22fae784548cda9cf2d0c05199,
     0x7b6e3e82f796409f7fe1a721c4505a32763027359523032ee0f33a592b82dd07),
    (0x8813872bd7e86273e5d7da8abeec2c5d1fbd69ff9c90f0c7023c155d3f6effc7,
     0xda92c2577f24eee565d75c741aa307ca11482869b0923b419f3bc2c655f5e228),
    (0x36f75f2c33138c527db720fb949680899fb5b731a939ef1b26357732edc665d1,
     0xf7c79e2df1a3a870fb65791b885c4ffb8dff1d456d261726f8b793ec48d3cb97),
    (0xaa95e0e1ed93686b1a9b84ac8af55919ca90b57acf0fef3408dd1028754c92e1,
     0xedcab23a3c5e61a6ecc4801a1092e7066cb6a0da20d5ff9846737315167021a4),
    (0x756c85b86d647ab6f0080ef9596cc8621adc84150afff55db4c66356ea37ba9e,
     0x3fd32f88c76cf884de6ac61c4286c9032dd36db12013b1a5c9db94aa1db9c215),
    (0xb49826b63bb791301bb5be4e947b4b38697261fdb76611377f1290fca06d107e,
     0x2ed3ca8fd1169aea72e1bdf201bcfe7fb1af79007e3fa8e4019ddfe85ba8bffb),
    (0x84f93fe2d06bc535a5df48cfd151138170b9e9b669b9924e3befda8cd745fff1,
     0x64e44c47ac7862a2b0368c8b01b6aea5651da6c4d8f96132aa42c5a9b279a6c3),
    (0x843c2122fe35813557f684d41d19e287c2e61b2dc93477bde17a9947d9de99a8,
     0xa8f449648106adbf29830d1d7b1858c4bf93ffe9b5f27aeee2d3e2e904f7e8ab),
    (0x2c41114ce0cdf9438fb7262dac0362d1440b386b8327c0a7e3417bc035d0b34a,
     0x20477abf42ff929726d6cdd201e486c9c09b37a867d543622ba5cef1ad95a0b1)],
  [
    (0x4a68df703db997b0083a8464806c0605ddc15cf677b092c7a004dcb3292a9287,
     0xaa8b9342ad7bc1cca6e6517f41b5f8afa4e63d398ccf7f8c9c134e4505bf7dd0),
    (0xe4e7b4f6778213042c1873efa41ec956e2f7f594d0134a96c41764717af715d2,
     0x6657624ce7112651ea6bc755b2ee8fe22b915e6380823d5be5c8ff9788d5374a),
    (0x8858e1e3a749883d82807f16b7c64047475607d166e0e3abd6f800e07442f1d5,
     0xa7cdea3d844423accb72525ac6aa73a41b80e7eb638a1ece5859120b8231ee10),
    (0x6af12778cb36cc575c43b0cc3b39eec5dfd6eb282538fc0e57477b11e51732d2,
     0xf59aba7bb49359c36c8d4f9ece826d9c6df92f8c5c221b9b70b0852d06c425ae),
    (0x6c06085b2db11e3d1d35076cf8a1726fe0e4c4e96197b98cd2eb2cf152bfda05,
     0xfeea86efbeaedc1e1311ee8b3727536d9d292f830030238c15c0c4d74463ba14),
    (0xef4dca5061cb02b8e20ef2e30564bb5926dfcf21fcaf119ea7f96054afa05dd8,
     0x39b58725425cb8364c5b439546d595c88b08d534fd657e86cda7838a65d30672),
    (0x2ac788481bae7d48a227df15bfc633f323c69b9650c0e052fda853931a62cc26,
     0x88b8974cce528a43765861d8336e6d8f6c2be919967f807d487878f9187d073d),
    (0x26605ecd3f7af64418abc03d1454e41cf926407ce84fa840c37e2c2e421d3aa4,
     0x5b337ce7945e1d8cd836edb8040101021edb84f4216b668e242341a6d6a5eabf),
    (0x259455d01dab3a2a8d4dd0db168d4668b30181746fdbff77666ba2dccc78cf66,
     0x55deb6c9e6f38f7b527d725d8a303f657714192513adb276f58564c5cde3acec),
    (0x330d7189b184b5448189593f6c2fda32e22924f9fa6295c5864d05d73272d838,
     0x00a894fbc8cee8542f4826b8641c833235771c94e5cb1a6379efa62cbde1f714),
    (0x4653a5763c4b6d9fc6c3de5031c68de2369cf3f578053a9adcdacd0a1058a318,
     0x57f95f130686709170cefe7cbc65c2835be80aa1b7ab3c741688dd5aaa4e5c97),
    (0x91787c9d96f752d7cbe45ec779438e55d9e116e82ba0f1dec240b6de34eaacda,
     0xd14f95d0157fdb2891940675749fb8f3d307b7c85a36e22c897f532bf129ac2f),
    (0xe497e5c30975205673032b19cfc5cfc3b0c9babbd0c56ae21625360416df4285,
     0x0c8f0069dc09e6608fc36243403826ba1ee42419a0b74da112096bb4164bda96),
    (0xec362a6ff61c70ab745f848458d6fc7347989fe45289b2b8c44b74a15b0ec6f5,
     0x8a56149d9acc9dcaed2c2173f44c35f473a20fc07b63db51070c98a7b3a8ad41),
    (0x243ef52d0919276a20c789bd0bafe84b200ea12350bb5a94a395c36f35d33ae7,
     0xd8914cb0c3ca4491b72a53b1f8fa76a4b93807afa460d1ec3934c577e23ae233),
    (0x0add3db7e18b7a4fa95362ff317af2c503fd344c7e0143f04c076b86d23ddc82,
     0xc755e7ec851141eb91351bf292f2e433fbeb49e554a1cc919c673e3f8260e01b)],
  [
    (0x5157c30c378fa45817b876533f8ff89a2f6d34201d2601522bf5db47f23206d5,
     0xf508455892e0fa89deb483e6bf847a64ef22f7ace6518cdc7517c5c52d4fb936),
    (0x4595cd1f5d11b4dea9a2438bd73fbd60b71bcf1bff210e8eab9659d8df7304d4,
     0xc94296218f5ad154c6038e5edf928a4e4a0f0d2d7dbb6e569c0d329a4835859d),
    (0x10d7c4e7ce943a27ed209d96708ab2029e8819f7e031119508a33840a70c6ec4,
     0xfa3ce6f26f7c8f17f912561e7cdf39ec57a67fb346627d1f372fb317a29b49a1),
    (0x54c9b20cee4d54bc6bdd0a63176cde206cab71bd60b9407891213462f23f2d92,
     0x831469c592dd3db9c7f68e169308643403f8e617206eedb03cd2d8aa9f2ac02f),
    (0x5ff039ad8037931191fe599bf3b7edfe283dd45ef040feb1fe7d7465653f3c5f,
     0xd2bec884fa560ac38b096341c1c83f742640b6b2a3e25094bf76995b4e96fa49),
    (0x06930a5538961407cbedf281d7a0992c587e23ec3588a2598521df248f981354,
     0xac4f3992fff6d2a9e6c8b4d909065160a7ffa5b52491817f09320debbe5bbe21),
    (0x4cdc9aee4907a201dbfdc7b20de05b2c04708a71f17a9b4e2e4eb2a3cc53da66,
     0xee938a7243b0deb0695833a74c05c3fd2b83cbfb47be1691e5cc8dfc6c475566),
    (0xe8b750070a1c98cae54342d928ab38b4e0af6d98e37ce2407aa7a1583ae9c1bd,
     0xb4069ea4e3aead59052a19120a1c67fc31b8b856ea921228efce86afe02358f2),
    (0x48614dd8db610615c4b4a9e1c18521fb2eb31256aa39418a3b826205c6ffcfe6,
     0xea4e7d11ecc77ec46a7975bc0310a876916ab969a8ead16204c362bbeea7475f),
    (0xd2f45c12af3a580f04c1d2cd2ccbfc5ddb938e5b0fdd7d883232d6e27fa03cb3,
     0x2cc71d2d44d8aaaf139e45a91567e1e35fd27e68be7c5f26592620b57883e614),
    (0xf958147e2d038e9ccebf9b4d9c2b5a4f05c07bf8123deffd6ef493c706ba8e6f,
     0xe5d249c5d84097fd9de22df13772168b8d0b5a7a794a6afc5af5cee03e5561c4),
    (0x628ad2a7ebe16f43fb7fb04c04b48ddff722d7b1d9a293824a9090cde36d0757,
     0xec336b082d23cab030c0754ec903c1886c34ecb15104b6c4cd3fbfb520226040),
    (0xe689371c111a7a95a3e330684b8cc87a8813259dfed9030374c70b4295c69248,
     0xa066b3efc5cf203267bb2fdd7e413e6d73a8543d65f9a6e252bfbbf7fbbbc20b),
    (0x61830b4862b606ea87ab956ce9f6b2c3f1e274808c49a633473d62a21e206ee5,
     0x74c116426b9836ab52bbbfcb952ec365fe40139f4c02082a67cd6846e78e815f),
    (0x0593b24e9bdebf4a72ef285cd1d431bde2d700f76d660683cf61b89c44f48971,
     0xa94fe2fe4139bdfe9cbc79d309f6d27784ce74d0aa16f2564084bc5b0561f8a1),
    (0x4dcefcdd84b78f50518919e355185a24230da4baac712b279f51439e558df019,
     0xb72d824cdbea8faffd2fc35974eed27355ac9abfb30e009ea7d90fb2a47d4c5a)],
  [
    (0x3a55b52e6f78033161d5590bc40493b62480d4a8197f015a549db2b5ef7d9289,
     0x9d5e9d7c93e8dd6164d631f0cc6a3d5adea7de5a92e5c62540eb8115309eadb0),
    (0xb8d2fe566bcfd7c0f9d5bb197073a732a5db84d3aea34c93196860411e84e0e5,
     0xb8b4a422330c789a1659b65f8374c1108cb20cccfdff8b5845775f36f3eb82fa),
    (0x1581cf93316f8cf59284ddf59c4d0e717daf0eb936880a54c925ff87aedbae9f,
     0x73d318ac02209400a5918046eefb8dc3b417fce9fb6aeffe3eeca8873ac1f452),
    (0xddc9d1eb914d3e0453b857c19ccd10b1a0af843dcb4efe24c4f4cda3af2ebc2f,
     0x1740f316c71a84ca7af18dd6832391ae829277aa91c5aa817bdec8bb62771deb),
    (0xca1d3729015f286d2353722ba88935e8577e29bc177736e6dd4a12d8e12b31f8,
     0x8c4cbbabfa0c383279d98930fd0d536e6e5250bfd3b03a9f86c7b6a239a3e035),
    (0xbd60f8e11258617ad634b74fedd02252bedd9e444d1cd2162d500910cab91f1e,
     0x87019244acf07fc80660b581582bd926fd26c766e7af5fc5d8c7537b9e05614a),
    (0xbc71b4a4e348efdebbcbab5b140f695ae6054f974bd72775afa26ccfaf64ecb6,
     0x35b4c06170339f83bd182fa604568771150abf5f5e5d9018fc2e52becc96d963),
    (0x5fcf57c5ed408a1d4c5007c2e72b156cee7aa73d6e24d7288928e99aeeaf8c49,
     0xe6eb38a9f131bea22cca254b7e103e2d7d343c01c2868bbf9f719e39b6057604),
    (0x6cde40fdfa85063ab7e8b42b1fd3bfd63611d7cffcd2914ac624a04e5f40ff52,
     0xca102ef788a4e56ef579125e33b461354cb609312972cc137811c449178b7e5b),
    (0x0701a7d153c418d51aabaa3adf9fab9c1c354cb3bd1a41a40ba4e3520a981b0d,
     0x890a54c7e90a5e341083b598de25cce66ceef0b3bcf48061dd1a7cefdcf2b921),
    (0xd0bd23177b41be00c4b33f97e0b82421d4c1e56684da0b1ec535956640ac1807,
     0xa7a6ba6756074fdd36e64e64d3fb530df8d39f5ff777104c53a4b42e147b72e1),
    (0x12d09a5a0acc4531ac11bb8ca0591a3be73c6bc28f11e8a0405718db4f6d01b1,
     0xce5966929961cb7c65f574cb1c48af70177e2be6044fd682cbf174eee7de13f4),
    (0x12ef486699c0afd3be9ff3053b02a1bce70ce6b1c80f6474989fe84ebc6fab9f,
     0x81e3d01f328528e0820e56d04ae201190b41d8817b485b9822d957f9e3411a26),
    (0x4291aba81f5b5b236e35903b9dc6b09241f2702ea01341b4c59eed6c048752a1,
     0xa55408ee99e2f4fe31b7ce065ab93f8fd1b648d44f2eb51e8173aa70a653d61d),
    (0x5e9a28d61b6971081dac0848fa84df2da26d7dc37a03cde21fa4ed0985e34160,
     0xeedccc0dd4b5a8614f422dae639b139ca8d154283ffe5520a88004d914ea0ea1),
    (0x9848949b7db8bfd7968e636967d805fa2a9ee4d1058e3413b33e624f8be762b4,
     0x8631594dd757e089c95c139e3dee471f892f3b1df3e29da55308d7e5d23a8417)],
  [
    (0xb585113af35850cd6bfc02523d8818be0a28ad7714e68c331083e2ea1f095615,
     0xc33ed1de2909df6c92c34299552f00cbaddda07c4ab7e3ac7d935f0b30df8aa1),
    (0x932b33d4622da26c5582a94b79684c2b6e4a5d397d8b63ae2dc40d483e07113c,
     0xdf178168f70155580eeece0fee5bdc9b211d07c964c23a52f534f6510dbbf08d),
    (0xd568d090a6e1fb00689886cdb023642a50602fb5a1170184abe7905a83cdd60e,
     0xdec2057a568ae828dfca35870c95f86e93831cd9c43141e45b1922c70259217f),
    (0xf8835decc3f0ae84dfa413bef5f499ae18bc5b6de1a26f5a568f8925913cc16d,
     0x5ce433b94f23ede0bcd8562592084a6965596439194b377eb6e60bd865a40ab0),
    (0xe66dd6d12131300d0b616dcac1b20650bf0779414e3aff13860d523d42e06189,
     0x3333b1e83abf92af022ecf8b7c46b2d7c9903550c7aac50dd4a0fd67ff99abde),
    (0x80428dff4c6e08ab35c712b17ae81930bcb7443f8f759fb8c0da65e784d6365d,
     0x358c1fb6882da71e20ac409cbe3ac7ceced8538dffa9855ff19dafefa4faf843),
    (0x1e6c9847641491ffc9af13c809e8dba9d3fc608065046be6efecdef7be42a582,
     0x06fec31421900942776a0dacef0859e7b7eb72baac2a21223b574925d30c31f7),
    (0x39650f1a76626d9d30a12f08d63fc97bdd744f8b4af07ca5324794b07e50122b,
     0xc3cde18895fb18871569ae95b26eb58a3d815f19d4dc124f101b47f71fa38477),
    (0x707d28f7a61dc76824b5d7a9a5f9adbed8dba5ab6209f5ac7ec62fbbf4737f21,
     0xb8f0c980eb8bd2793c4bab6618d4bf2dba7b174d1c92e4cc7711460bcaa999ea),
    (0x5cf06fd5c63d488f712c2f04c0d63b6eed61058906b736ae9d658932790691bf,
     0x1cf4a1aa0a061ecfa9d1ffc4667acace1f9bf7622b93257e97363facd9588e41),
    (0x85512b4dfe0af3f5f28bb767a2294a8a9ebf94fe4f6952e328d675b2c0519a23,
     0xe3ebbb9785bfb74cb30d1b10a16be61595c2430cba7548a718958ba899b16a0d),
    (0x617969cd029a3acad779c2167214d5cfbe57e54784c8423207b53f5eb2e63645,
     0xa8c4f4efd5968a7258fd0e939c16177677b4d19abe9b7ee8d17668cd8a7017a0),
    (0xeff5b8ef880ee19b768fa10a019056145a15ee08cc8ef89581eeb865d2fdca23,
     0xf6f278962ff698e50587d8b88a4a14c02e1ee9cdb8c838f9f0c0cabbcb1c8a0e),
    (0x1e62960e627312f66e6087976278a000283834f95ab32e66519d34b3bf44da80,
     0x06394239ac143b5abbbc09512facc27d80e7853824fdbc1f9b87b27be6901c55),
    (0xde8d6d630d8eb84306d54e443643b52a68a210811e80857f9c4b646e9e2fce99,
     0x43b6c03c10281d37227a58bd861387878ba826f25eaa36227032156342146a0a),
    (0x19c02205d752baf4673257dc143ff9510e44a59ae63b89b702b37a952f41deff,
     0xe51ff9460c1b5b636057b1a21b2208462e6392c3fd1502ac46c23069c4b7d692)],
  [
    (0xe0a393322147927d9354e90c4994d94acff9c9193597f0466e85cb51566c5c43,
     0xfa2e067d67aaa746e2d4e6840196527488cfd8c22ff319fa8427fac10dc1eb2b),
    (0xf6c13cc0caf17e194d1a6dd7ddf800bd9afe153ad6cb3b8eb6d92a7f3e5f9f11,
     0x3f8417a194c7ae2d168e7c07afa3d3e771095400a31dc3b215f6c58e325fc3ee),
    (0x7fab1750ce06af7711548ab1d77fc56a634d0f5f17344427ec234772813b230d,
     0x0b9815a0face59f01c404170921209a0a7d2edc4220a67d9b62c10a74f7c4f83),
    (0x3db6d960c3683ba0a2731f84daae9fcb18490f59a283d6f82842589b319540c3,
     0x73f6e094e11a7db1905459df347460d2b19436af0788bf05c85c63bb14611069),
    (0x37e83ed9eb023a99c878dcb92ca979fcc5d00f792bd8aa62dc7f938eb6357f37,
     0x1b956bc0f0ea9ea1782483169a9414bd1086e4591d0fae616b23e2731560bf3d),
    (0xe610ad732d373685dedeb169af3bab6f0c5aa90b48ef57b57b85bb91c31b9c38,
     0xd921d576b6b94e81e4acf747b62c036c0337edb68ca7f771f13870df02ba8e15),
    (0xc357c9e32b315e1183084668c45bfcd1fb635362ed348898dbc864392c422f7a,
     0xec225a83d61b662b17c890eb7b0fb1997e946931e102b9a4b173b5405b2e5b8c),
    (0x3b8a4cbe5c005c26e6d5ab646863e9563cf11623d32a1f6ef306a3c8ee3c76cb,
     0x85e56df66b307fabb0624a267923798dc4afaa5204d4b16fdcd529a59ce6bb27),
    (0x40ceb3fa4d50bf7775a5dca3ad9a558f91fc19a4d7ce76030281893c2bf29698,
     0xd4cf10c1c34ae980d936bf1986a34c07927e1037597888c21baf6060bc9ba369),
    (0xc9c0d0a6b88b432663080d1f07cd51d59c475b5b18d0c8ee3a3e5334859dd614,
     0x5230a6e8a24802f5565114270cea9cf22a0a83a494887fb61ac98691c234296f),
    (0xe0030a787ce202f9fedcbf259ce30334377174464f21439ef7a2bf0f72e3d5c1,
     0x6c8d087ebb9b404df52072aff1dac4f8e79dde6c75e6e5916f2d9ebf1202e9ca),
    (0x425cd048b54466ac1300da84d4f00c8a909e587b458a07cbad0fc73dbce913af,
     0x91af92d359f4dc3bd3aa117a531aecff991616db3e431b0eb59cb9be90e9d8bf),
    (0x3653fe47be855ae37509d95faface1e676bb6c17e97d91bc9b1ec292e93fda29,
     0x2d70a9976b5821d8a4cdf29fb66d423675eefd1beeb6c26c73180b280f680e75),
    (0xd05cf3d7982e30810fc539f7949f73e971d1ac82598771747a3ee20720445c36,
     0xbe16f5c19fff5e53b05d3a2f59544c2dffadcc20569e61f28758e20b7b1c7129),
    (0x0e029db50d3978cf79373b3f646fd6a0622c2119037aa5be73cf65b8aad58135,
     0x7627cfbf585d74643fa5382bbd30d38eaefbd687620797a68bdfc43794fba037),
    (0x135dc5395b54827dd161d2cacf780900bcef72873566cc63b2330fef4e4ca463,
     0x8b0c573826152c8fe973586d6d3321da10a224f007dfa06c638f052e27bf1bc6)],
  [
    (0x15b4488b29fd9fd06e1da8c39a33c6771fe19e357fe4364e9910ba6b23a5d896,
     0xf2c4f79cb6ec839b3fd1b24907e5658e920a8a70ab8163e81f4392541a1f22bf),
    (0x0bdec21162bc679298204cb64fcf68e15d2b0ac6c717370e8b5c619c76497ee8,
     0x037248e9d2d4fcb45efb693e3d0e0c8bf9e3fa97e0de1ac56973ccefa63b1011),
    (0x69aada7f6d6180a56183291b6ed77d1c62699718e770b20dd3694e2ab20364e4,
     0xd53e48d228dc87eed6a2308a7fb96d8dfd7e84567870107751f9054bf185509b),
    (0x7be5ed0dc475c1293f06d66c530cb4f3d8772d353381060380802dc91ec34f9e,
     0x0aec44147285bbcab92118c692a1b45ec63d2857c9ff6b4ccb9e3c1931e82b10),
    (0x5ec40582c9a82fa78d5d177c64ff8578982be4fd46700b8b37071afbe8316c45,
     0xad4b4f6fc0c14de6312f39604bbbb74c24e809f49f0312845518e37bcfa86678),
    (0xf3b4962f5f3e6c3e028a81514f3cf2dc6415834bac4ab3aba3d6f4868eb6e843,
     0x1b77791d06871332c31cdd6b9b149ed6437a6d8ae10bce559119ae90987dd2f2),
    (0x1eb6a9688f95277ca3fd22fbcea3f029965a774094e746409c34b650e16e05e9,
     0x12109c4aacef5cbdea92c1669b840d48ad917201f58f2fee2520a63d7bad84f6),
    (0xb7a23f34b68e19f8d0107914ceaae10ecbe906f04c93302efc189ae71e29a3ef,
     0x3cf0bbf83d44303865591bf64da1711303198c6efcadc9c8e9d875c2efd2119d),
    (0xada4cfdd7ecfa8408c94a21ab972da90598d0bf8849be4b7ab293027aad991c1,
     0xaf9346e9eb8562e0900424eb6a652a557ca617a203219a3493d4b9c0fbcec63a),
    (0x54476778acd2f1b6c92becfa390b3ef2b1643ab5911bc478c3e04d7902381461,
     0xbb04730090b0790aee182910b5a13ac32bc1287b2c21c65a8daa0c4d66bf3aaf),
    (0x17f904ba45b0995e765a50db1a6fd0ffc5772beefdc3a47b83766947d17d4e0b,
     0xc8fa426a142fd4d56738d94f46cb1fd9f56db7f3c270aaedcee643832883487e),
    (0x389caef34ec5b10982159d07de7d6f2c945353e1b2d4c63aae485bb72b724759,
     0x73429bb9c14208a3816fa3ed83f2405f2dc2cb7edd99de434a8ebb53db65ef14),
    (0x58c8a77ac0d58abd9947c636a9b6e05a8d98277b4a837f6908ed8febd56daf06,
     0xfbe185ec38e1eb47ecbd1958e3fb0c5d16cd67c71076d3d3f45496a45f121e4f),
    (0x98fe1c61f5b61d31fd025001b905b499dd4d06aff39e7832b7ef9760ff79d2ee,
     0x08e213122c3832dfa322b09f514eb16d376e3b783009cd9aa9f83980c5f12805),
    (0xbeeb3ea58c37888ea76697bd602e90655dc516824ddbc0b6aea68626dc4ad4f4,
     0x6ca1346292cc09fd9fb560949ae44df2e48b820ca35f44841ec4a2f214569113),
    (0x412c9e1e9fa403a4d1b299b504aea4a9047e2ccde180b2dcb618d590b01e6e27,
     0x178851bc75122b973a1b6fcce668de1949c50136f332b8e388d28a3679407552)],
  [
    (0x9211e489de7f4f8a426eca29484c2ece9c4e7ad63c6341fb197dd46d95a7b1a2,
     0x25f92e470f60e01817286a6e1c3eede82b2c09100657458614997f6ec78ef1f4),
    (0xf8910bd2ceb38cbfb4acd4c2e3ac5664e4f7fee9c4b63266b4e370af3aeac968,
     0x3890896aef8314cd70884b7ffd5a5a1b15309569d97b40bf1c3ae50cc9c0726e),
    (0x6e220932f66a971ea2cb525fb54fc5193b7f3efb1747d2da090d7d205ffe7b37,
     0xd6fa48a1d8d302b583da7e4e76e4c1517fcfec463fe13465ddc160dfb486d440),
    (0x6cd15a3c5a2a412be706381b7a1dca258efb83143a4464f85ced3c9f82e4c634,
     0x11e7c1ed344411afc4aeb11ef8d8932f31db2eef6e54cd229347a8fdbfcd8fb5),
    (0xf683125dcb72c3121fa0ba4ef2cf65256fcb2caf9ccce8bdae4065ef12045cf9,
     0x05f11e11eef649a5abd9575298fb3f0767e286776cd8e830a01da4eae312410e),
    (0x1ee3e9bd6876214ea6f2f2695db01e54e6da0fd2b9da921e996884f5903fa271,
     0x9948148780b5761442f32a6c252cabca36d254e48e215e04a26e181ce27a9497),
    (0x0bd9abbfa57f5799e74d55c8db229666c726cf250bf5ec74ea961058fa28a7e0,
     0xa32a8b5e7d4b72808e0283fe36a8bde2d9c65fc30c52f91d7479ef074dfc47b3),
    (0x14af860fcd26d2b48e525f1a46a5122924ae1c304ad63f99ab41b43a43228d83,
     0x82ceb1dd8a37b527d3e21fcee6a9d694f51865adeb78795ed6baef613f714aa1),
    (0x91332ba14b127823e57cae36bff2d7ab745aaba3e10566da8605d27d48307682,
     0x8c2addf3e78cb0c6e9bc95352b18b7bd43a21c4fec462929cb5c3638f3429f43),
    (0x314fc2a4844f4dedcad05d69ad36ce507f2f1fe2481b97f74a665bfd2f9fd51a,
     0xd3541b7969fae631f9b7be6937453ccee3510ce8bfb1e23dd5593d8cb55fc5c6),
    (0xc3a3462986ed94a403b41f6e9f5e642e949b28573f52651ab013cbcad7154ced,
     0x4112c5d78847940aaac7bfa12edad3b67578fe8a028c9c26f3c86cd6222b24dc),
    (0x4560910c98972cc7f5b4eb61eba6d3bcf1af24f22cdfa4c699296525eca445df,
     0x75fc863a538baa7e3bd90ce62d871110018313497d3c67bb54751c32093eaa32),
    (0x79a680427a75cd8222f029e733be0492160c5306137cdf658fe1f8b64ae3a278,
     0x829fa986b11c1eaa08b958ffa5792e225d723bbe165c32501d8c094a5b3f3ada),
    (0x017535ffc9290894543bc62ba248a65e06ca4e4b9011d488711b8a4176a9f05d,
     0x54eb4d5b2ac0f92cac3394af7128fd34afa3acdf90e960b4840b84ce406851d7),
    (0x6372f933f72ce929ce3f117fe917a4dfc8cc8c57f0946328923ea73e4a14f836,
     0xe9b2f90c7b42bd176c63aaabdd02ec7acbd437e68c829cca75000249c29ba567),
    (0xd4ef0fb6c43fb574b83e47e51c6519621f8799286639bbb1db09e87355dbd4b3,
     0x4c2110053aa5cb648eebdc9d157b90146ab877e86e5e8b7227d3b9d8f1bfb12a)]]

/-- The words of the number, already in Montgomery form. -/
def fe (h : ℕ) (hlt : h < p) : FieldElement := ⟨ofNat 8 h, Reduced.ofNat hlt⟩

theorem rows_lt : ∀ row ∈ ROWS, ∀ e ∈ row, e.1 < p ∧ e.2 < p := by decide +kernel

def GENERATOR_TABLE : GeneratorTable FieldElement :=
  ROWS.pmap (fun row h => row.pmap (fun e he => (fe e.1 he.1, fe e.2 he.2)) h) rows_lt

end EspMid.Model.GeneratorTable
